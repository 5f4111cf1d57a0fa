import EventScript.Names
import EventScript.Number.Decimal
import EventScript.Text.Lines
import EventScript.Value

/-!
# Events

What is triggered on instances: a name, parameters, and whom it is for. The name also says what
kind of event it is.
-/

namespace EventScript

/-- Instances are numbered from 1 in the order in which they are added. -/
abbrev InstanceId : Type := Nat

inductive Target where
  | everyone
  | only (instanceId : InstanceId)
  deriving DecidableEq, Repr

def Target.includes : Target → InstanceId → Bool
  | everyone, _ => true
  | only id, instanceId => id == instanceId

structure Event where
  name : String
  parameters : Names Value
  target : Target

inductive EventKind where
  | objectState
  | alarm
  | step
  | mouse
  | key
  | collision
  | draw
  | other
  deriving DecidableEq, Repr

/-- Alarms are numbered from 0 to 11. -/
def alarmCount : Nat := 12

def nameAfter? (start name : String) : Option (List Char) :=
  Text.after? start.toList name.toList

/-- The number that a run of digits spells, which a plus sign may precede. -/
def unsigned? (text : List Char) : Option Nat :=
  let digits := match text with
    | '+' :: rest => rest
    | text => text
  if digits.isEmpty || !digits.all Char.isDigit then none
  else some (Number.digitsValue digits)

def alarmNumber? (name : String) : Option Nat :=
  ((nameAfter? "alarm" name).bind unsigned?).filter fun n => decide (n < alarmCount)

def collisionWith? (name : String) : Option String :=
  ((nameAfter? "collision_" name).filter fun other => !other.isEmpty).map String.ofList

namespace EventKind

def ofName (name : String) : EventKind :=
  if ["create", "create_child", "destroy", "destroy_child", "destroy_parent"].contains name then
    objectState
  else if ["begin_step", "normal_step", "end_step"].contains name then step
  else if ["draw", "gui"].contains name then draw
  else if (alarmNumber? name).isSome then alarm
  else if (nameAfter? "mouse_" name).isSome then mouse
  else if (nameAfter? "kb_" name).isSome then key
  else if (collisionWith? name).isSome then collision
  else other

end EventKind

namespace Event

/-- An event for everyone, without parameters. -/
def named (name : String) : Event := ⟨name, ∅, .everyone⟩

def withParameter (event : Event) (name : String) (value : Value) : Event :=
  { event with parameters := event.parameters.insert name value }

def toInstance (event : Event) (instanceId : InstanceId) : Event :=
  { event with target := .only instanceId }

def kind (event : Event) : EventKind := EventKind.ofName event.name

def display (event : Event) : String :=
  let parameters := event.parameters.toList.map fun (name, value) => s!"{name}={value.display}"
  let suffix := if parameters.isEmpty then "" else " " ++ ",".intercalate parameters
  s!"<Event {Text.quoted event.name}{suffix}>"

end Event

end EventScript
