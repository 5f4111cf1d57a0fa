import EventScript.Number.Shortest
import EventScript.Text.Quoted

/-!
# Values

What scripts compute with: numbers, texts and booleans.
-/

namespace EventScript

inductive Kind where
  | number
  | text
  | boolean
  deriving DecidableEq, Repr

inductive Value where
  | number (value : Float)
  | text (value : String)
  | boolean (value : Bool)
  deriving DecidableEq

namespace Kind

def name : Kind → String
  | number => "number"
  | text => "string"
  | boolean => "boolean"

/-- What an unknown name reads as where this kind is expected. -/
def sentinel : Kind → Value
  | number => .number 0.0
  | text => .text ""
  | boolean => .boolean false

end Kind

namespace Value

instance : Inhabited Value := ⟨Kind.number.sentinel⟩

def kind : Value → Kind
  | number _ => .number
  | text _ => .text
  | boolean _ => .boolean

/-- The text of a value where it is joined to a text or printed. Both zeros show as `0`. -/
def display : Value → String
  | number x => if x == 0.0 then "0" else Number.text x
  | text s => s
  | boolean b => if b then "true" else "false"

def describe (value : Value) : String :=
  match value with
  | text s => s!"{value.kind.name} {Text.quoted s}"
  | _ => s!"{value.kind.name} {value.display}"

/-- Equality as scripts see it: of numbers it is that of IEEE 754, so a NaN differs from itself and
the two zeros are equal. -/
def equals : Value → Value → Bool
  | number x, number y => x == y
  | text s, text t => s == t
  | boolean a, boolean b => a == b
  | _, _ => false

def number? : Value → Option Float
  | number x => some x
  | _ => none

def text? : Value → Option String
  | text s => some s
  | _ => none

def boolean? : Value → Option Bool
  | boolean b => some b
  | _ => none

@[simp] theorem kind_sentinel (k : Kind) : k.sentinel.kind = k := by cases k <;> rfl

end Value

end EventScript
