import EventScript.Chance
import EventScript.EventSink
import EventScript.SymbolTable

/-!
# Memory

What a running script can change: its locals, the globals if it has any, and the event sink.
-/

namespace EventScript

structure Memory (σ : Type) where
  locals : SymbolTable
  globals : Option SymbolTable
  sink : σ
  chance : Chance

def Memory.ofLocals {σ : Type} (locals : SymbolTable) (sink : σ) (chance : Chance) : Memory σ :=
  { locals, globals := none, sink, chance }

end EventScript
