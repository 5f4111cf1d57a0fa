import EventScript.Engine

/-!
# Sessions

One script after another on the same symbols. The events that they trigger are kept until they are
taken.
-/

namespace EventScript

structure Session where
  engine : Engine
  memory : Memory (Array Event)

namespace Session

def start (engine : Engine) (chance : Chance) : Session :=
  { engine, memory := .ofLocals .empty #[] chance }

def symbols (session : Session) : SymbolTable := session.memory.locals

/-- Runs an input and gives the value of its last expression. What an input did before it failed
remains. -/
def run (session : Session) (input : String) : Except ScriptError (Option Value) × Session :=
  match session.engine.compile input with
  | .error error => (.error error, session)
  | .ok block =>
    let (result, memory) := session.engine.run block session.memory
    (result.map Execution.lastValue, { session with memory })

def takeEvents (session : Session) : List Event × Session :=
  (session.memory.sink.toList, { session with memory := { session.memory with sink := #[] } })

end Session

end EventScript
