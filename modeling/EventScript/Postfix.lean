import EventScript.Operator
import EventScript.Value

/-!
# Postfix code

The code of an expression: operands first, then what is done with them.
-/

namespace EventScript

inductive Instruction where
  | push (value : Value)
  | load (name : String)
  | operate (operator : Operator)
  | call (name : String) (count : Nat)
  deriving DecidableEq

namespace Instruction

def display : Instruction → String
  | push (.text s) => Text.quoted s
  | push value => value.display
  | load name => name
  | operate op => op.symbol
  | call name count => s!"{name}/{count}"

/-- How many values the instruction takes off the stack; it leaves one there. -/
def pops : Instruction → Nat
  | push _ | load _ => 0
  | operate op => op.arity
  | call _ count => count

end Instruction

abbrev Postfix : Type := List Instruction

namespace Postfix

def display (code : Postfix) : String := " ".intercalate (code.map Instruction.display)

def calls (code : Postfix) : List (String × Nat) :=
  code.filterMap fun
    | .call name count => some (name, count)
    | _ => none

/-- The depth of the stack after the code ran on a stack of depth `depth`, or the index, counted
from `index`, of the first instruction that would take more values than there are. -/
def depthFrom (index depth : Nat) : Postfix → Except Nat Nat
  | [] => .ok depth
  | instruction :: code =>
    if instruction.pops ≤ depth then depthFrom (index + 1) (depth - instruction.pops + 1) code
    else .error index

def stackEffect (code : Postfix) : Except Nat Nat := depthFrom 0 0 code

end Postfix

end EventScript
