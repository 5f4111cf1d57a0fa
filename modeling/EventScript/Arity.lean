/-!
# Arities

How many arguments a function takes.
-/

namespace EventScript

inductive Arity where
  | exactly (count : Nat)
  | between (low high : Nat)
  | atLeast (low : Nat)
  deriving DecidableEq, Repr

namespace Arity

def accepts : Arity → Nat → Bool
  | exactly n, count => count == n
  | between low high, count => decide (low ≤ count) && decide (count ≤ high)
  | atLeast low, count => decide (low ≤ count)

def display : Arity → String
  | exactly 1 => "1 argument"
  | exactly n => s!"{n} arguments"
  | between low high => s!"{low} to {high} arguments"
  | atLeast low => s!"at least {low} arguments"

end Arity

end EventScript
