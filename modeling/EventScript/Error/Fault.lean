import EventScript.Arity
import EventScript.Operator.Apply

/-!
# Faults

Why a statement cannot be carried out.
-/

namespace EventScript

inductive Fault where
  | operator (cause : OperatorError)
  | stackOverflow
  | stackUnderflow
  | unknownIdentifier (name : String)
  | unknownFunction (name : String)
  | wrongArgumentCount (name : String) (arity : Arity) (count : Nat)
  /-- A function reports an error in its own words, the outermost first. -/
  | reported (messages : List String)
  /-- A function that should give a value gave none. -/
  | noValue (name : String)
  | nothingToAssign (target : String)
  | noCondition
  | constantTarget (target : String)
  deriving DecidableEq

namespace Fault

def isMismatch : Fault → Bool
  | operator cause => cause.isMismatch
  | _ => false

def message : Fault → String
  | operator cause => cause.message
  | stackOverflow => "stack overflow"
  | stackUnderflow => "stack underflow"
  | unknownIdentifier name => s!"unknown identifier {name}"
  | unknownFunction name => s!"unknown function {name}"
  | wrongArgumentCount name arity count =>
    s!"wrong number of arguments for {name}: want {arity.display}, got {count}"
  | reported messages => ": ".intercalate messages
  | noValue name => s!"{name} returned no value"
  | nothingToAssign target => s!"nothing to assign to {target}"
  | noCondition => "condition has no value"
  | constantTarget target => s!"cannot assign to constant {target}"

end Fault

end EventScript
