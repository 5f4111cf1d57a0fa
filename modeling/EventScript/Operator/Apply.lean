import EventScript.Operator
import EventScript.Value

/-!
# Applying operators

What each operator makes of its operands, and the reasons why it may refuse them.
-/

namespace EventScript

inductive OperatorError where
  /-- The operator was given a number of operands other than its arity. -/
  | operandCount (operator : Operator) (count : Nat)
  /-- The kinds of the operands do not fit the operator. -/
  | unsupported (operator : Operator) (operands : List Value)
  /-- A boolean was joined to a text. -/
  | joinedBoolean (value : Bool)
  /-- A text stands where a truth value is needed. -/
  | noTruthValue (text : String)
  | divisionByZero
  | moduloByZero
  /-- A comparison met a NaN. -/
  | unordered
  deriving DecidableEq

namespace OperatorError

/-- Whether the kinds of the operands are at fault, rather than their values or their number. -/
def isMismatch : OperatorError → Bool
  | unsupported .. | joinedBoolean _ | noTruthValue _ => true
  | operandCount .. | divisionByZero | moduloByZero | unordered => false

def message : OperatorError → String
  | operandCount op count =>
    s!"operator {op.symbol} expects {op.arity} operands, got {count}"
  | unsupported op operands =>
    s!"unsupported operands for {op.symbol}: " ++ ", ".intercalate (operands.map Value.describe)
  | joinedBoolean b =>
    s!"unsupported operands for {Operator.plus.symbol}: string, {(Value.boolean b).describe}"
  | noTruthValue text => s!"{(Value.text text).describe} has no truth value"
  | divisionByZero => "division by zero"
  | moduloByZero => "modulo by zero"
  | unordered => "cannot order NaN"

end OperatorError

/-- Booleans stand for themselves, numbers are true unless zero, and texts have no truth value. -/
def Value.truth : Value → Except OperatorError Bool
  | .boolean b => .ok b
  | .number x => .ok (x != 0.0)
  | .text s => .error (.noTruthValue s)

def compareNumbers (x y : Float) : Option Ordering :=
  if x < y then some .lt else if x == y then some .eq else if y < x then some .gt else none

namespace Operator

/-- The operators between two numbers. A remainder has the sign of its divisor. -/
def applyNumbers (op : Operator) (x y : Float) : Except OperatorError Value :=
  match op with
  | plus => .ok (.number (x + y))
  | minus => .ok (.number (x - y))
  | times => .ok (.number (x * y))
  | divide => if y == 0.0 then .error .divisionByZero else .ok (.number (x / y))
  | modulo =>
    if y == 0.0 then .error .moduloByZero else .ok (.number (x - y * (x / y).floor))
  | power => .ok (.number (x.pow y))
  | op =>
    match op.comparison? with
    | some holds =>
      match compareNumbers x y with
      | some ordering => .ok (.boolean (holds ordering))
      | none => .error .unordered
    | none => .error (.unsupported op [.number x, .number y])

def applyTexts (op : Operator) (s t : String) : Except OperatorError Value :=
  match op.comparison? with
  | some holds => .ok (.boolean (holds (compare s t)))
  | none => .error (.unsupported op [.text s, .text t])

def applyUnary (op : Operator) (operand : Value) : Except OperatorError Value :=
  match op, operand with
  | negate, .number x => .ok (.number (-x))
  | identity, .number x => .ok (.number x)
  | not, operand => operand.truth.map fun b => .boolean !b
  | op, operand => .error (.unsupported op [operand])

def applyBinary (op : Operator) (left right : Value) : Except OperatorError Value :=
  match op, left, right with
  | and, left, right => do
    let first ← left.truth
    let second ← right.truth
    return .boolean (first && second)
  | or, left, right => do
    let first ← left.truth
    let second ← right.truth
    return .boolean (first || second)
  | plus, .text _, .boolean b => .error (.joinedBoolean b)
  | plus, .text s, right => .ok (.text (s ++ right.display))
  | plus, .number x, .text t => .ok (.text ((Value.number x).display ++ t))
  | equal, left, right =>
    if left.kind = right.kind then .ok (.boolean (left.equals right))
    else .error (.unsupported equal [left, right])
  | notEqual, left, right =>
    if left.kind = right.kind then .ok (.boolean !(left.equals right))
    else .error (.unsupported notEqual [left, right])
  | op, .text s, .text t => op.applyTexts s t
  | op, .number x, .number y => op.applyNumbers x y
  | op, left, right => .error (.unsupported op [left, right])

def apply (op : Operator) (operands : List Value) : Except OperatorError Value :=
  match op.arity, operands with
  | 1, [operand] => op.applyUnary operand
  | 2, [left, right] => op.applyBinary left right
  | _, operands => .error (.operandCount op operands.length)

end Operator

end EventScript
