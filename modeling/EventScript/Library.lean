import EventScript.Engine

/-!
# Libraries

Compiled blocks under names, run on demand.
-/

namespace EventScript

structure Library where
  engine : Engine
  blocks : Names Block := ∅

namespace Library

/-- Compiles a source and keeps its block under a name that is still free. -/
def register (library : Library) (name source : String) : Except ScriptError (Block × Library) :=
  if library.blocks.contains name then .error (.duplicateBlock name)
  else do
    let block ← library.engine.compile source
    return (block, { library with blocks := library.blocks.insert name block })

def get? (library : Library) (name : String) : Option Block := library.blocks[name]?

def unregister (library : Library) (name : String) : Library :=
  { library with blocks := library.blocks.erase name }

def names (library : Library) : List String := library.blocks.keys

def execute {σ : Type} [EventSink σ] (library : Library) (name : String) (memory : Memory σ) :
    Except ScriptError Execution × Memory σ :=
  match library.get? name with
  | some block => library.engine.run block memory
  | none => (.error (.unknownBlock name), memory)

end Library

end EventScript
