/-!
# Operators

The operators of expressions, how tightly they bind and how many operands they take.
-/

namespace EventScript

inductive Associativity where
  | left
  | right
  deriving DecidableEq, Repr

inductive Operator where
  | negate
  | identity
  | not
  | power
  | times
  | divide
  | modulo
  | plus
  | minus
  | less
  | lessEq
  | greater
  | greaterEq
  | equal
  | notEqual
  | and
  | or
  deriving DecidableEq, Repr

namespace Operator

/-- A higher precedence binds tighter. The signs bind tighter than every operator between two
operands; `not` stands between the comparisons and `and`. -/
def precedence : Operator → Nat
  | negate | identity => 8
  | power => 7
  | times | divide | modulo => 6
  | plus | minus => 5
  | less | lessEq | greater | greaterEq | equal | notEqual => 4
  | not => 3
  | and => 2
  | or => 1

def associativity : Operator → Associativity
  | negate | identity | not | power => .right
  | _ => .left

def arity : Operator → Nat
  | negate | identity | not => 1
  | _ => 2

def symbol : Operator → String
  | negate => "neg"
  | identity => "pos"
  | not => "not"
  | power => "^"
  | times => "*"
  | divide => "/"
  | modulo => "%"
  | plus => "+"
  | minus => "-"
  | less => "<"
  | lessEq => "<="
  | greater => ">"
  | greaterEq => ">="
  | equal => "=="
  | notEqual => "!="
  | and => "and"
  | or => "or"

/-- Whether `stacked` is applied before an operator between two operands that follows it. -/
def yieldsTo (stacked incoming : Operator) : Bool :=
  decide (incoming.precedence < stacked.precedence) ||
    (incoming.precedence == stacked.precedence && incoming.associativity == .left)

/-- For a comparison, the orderings of its operands under which it holds. -/
def comparison? : Operator → Option (Ordering → Bool)
  | less => some Ordering.isLT
  | lessEq => some Ordering.isLE
  | greater => some Ordering.isGT
  | greaterEq => some Ordering.isGE
  | _ => none

end Operator

end EventScript
