import EventScript.Memory

/-!
# Procedures

What a function of the host does when a script calls it, step by step. A procedure reads and changes
the locals of the script, triggers events, and ends with a value, with none, or with an error.
-/

namespace EventScript

inductive HandlerError where
  /-- An error of the script engine, passed on as it is. -/
  | script (error : ScriptError)
  /-- An error in the procedure's own words, the outermost first. -/
  | reported (messages : List String)
  deriving DecidableEq

inductive Procedure where
  | done (result : Option Value)
  | fail (error : HandlerError)
  | trigger (event : Event) (next : Except ScriptError Unit → Procedure)
  /-- Reads the locals. -/
  | read (next : SymbolTable → Procedure)
  /-- Assigns a local variable; the answer is whether the name was not refused. -/
  | assign (name : String) (value : Value) (next : Bool → Procedure)
  | declare (name : String) (value : Value) (next : Procedure)
  | erase (name : String) (next : Procedure)
  /-- Puts another table in the place of the locals. -/
  | replace (locals : SymbolTable) (next : Procedure)
  /-- Draws a number from 0 to `bound`. -/
  | draw (bound : Nat) (next : Fin (bound + 1) → Procedure)
  | clock (next : Nat → Procedure)

namespace Procedure

def ofExcept : Except HandlerError (Option Value) → Procedure
  | .ok result => done result
  | .error error => fail error

def perform {σ : Type} [EventSink σ] :
    Procedure → Memory σ → Except HandlerError (Option Value) × Memory σ
  | done result, memory => (.ok result, memory)
  | fail error, memory => (.error error, memory)
  | trigger event next, memory =>
    let (answer, sink) := EventSink.trigger event memory.sink
    (next answer).perform { memory with sink }
  | read next, memory => (next memory.locals).perform memory
  | assign name value next, memory =>
    match memory.locals.assign? name value with
    | some locals => (next true).perform { memory with locals }
    | none => (next false).perform memory
  | declare name value next, memory =>
    next.perform { memory with locals := memory.locals.declare name value }
  | erase name next, memory =>
    next.perform { memory with locals := memory.locals.erase name }
  | replace locals next, memory => next.perform { memory with locals }
  | draw bound next, memory =>
    let (number, chance) := memory.chance.draw bound
    (next number).perform { memory with chance }
  | clock next, memory => (next memory.chance.clock).perform memory

end Procedure

end EventScript
