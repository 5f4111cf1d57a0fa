import EventScript.Procedure

/-!
# Functions

The functions that scripts can call, and the registry in which they are found by name.
-/

namespace EventScript

structure Function where
  arity : Arity
  /-- Whether a call may change anything besides giving a value. -/
  hasSideEffects : Bool := true
  /-- Whether a call gives a value. -/
  returnsValue : Bool := true
  handler : Option InstanceId → List Value → Procedure

inductive CallError where
  /-- The function of this name takes another number of arguments. -/
  | wrongArgumentCount (name : String) (arity : Arity) (count : Nat)
  | handler (error : HandlerError)
  deriving DecidableEq

def Function.call {σ : Type} [EventSink σ] (function : Function) (name : String)
    (caller : Option InstanceId) (arguments : List Value) (memory : Memory σ) :
    Except CallError (Option Value) × Memory σ :=
  if function.arity.accepts arguments.length then
    let (result, memory) := (function.handler caller arguments).perform memory
    (result.mapError .handler, memory)
  else (.error (.wrongArgumentCount name function.arity arguments.length), memory)

structure Registry where
  functions : Names Function := ∅

namespace Registry

instance : Inhabited Registry := ⟨{}⟩

def get? (registry : Registry) (name : String) : Option Function := registry.functions[name]?

def contains (registry : Registry) (name : String) : Bool := registry.functions.contains name

/-- Adds a function; a name is taken for good. -/
def register (registry : Registry) (name : String) (function : Function) :
    Except ScriptError Registry :=
  if registry.contains name then .error (.duplicateFunction name)
  else .ok ⟨registry.functions.insert name function⟩

def names (registry : Registry) : List String := registry.functions.keys

def ofList (functions : List (String × Function)) : Registry :=
  ⟨Std.ExtTreeMap.ofList functions⟩

end Registry

end EventScript
