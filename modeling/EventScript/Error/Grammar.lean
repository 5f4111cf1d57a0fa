import EventScript.Arity
import EventScript.Operator
import EventScript.Token

/-!
# Grammar errors

Why the tokens of a script form no expression, no statement or no block.
-/

namespace EventScript

inductive GrammarError where
  /-- A token that belongs to no expression. -/
  | unexpected (token : Token)
  /-- Two operands stand side by side. -/
  | missingOperator (second : Token)
  | missingLeftOperand (operator : Operator)
  | endsWithoutOperand
  | missingOperandBeforeClose
  | unmatchedClose
  | unclosedParen
  | emptyParens
  | missingArgument
  | commaOutsideCall
  /-- The operators leave a number of values other than one. -/
  | valuesLeft (count : Nat)
  /-- The operators need more values than there are at the instruction of this index. -/
  | underflow (index : Nat)
  | wrongArgumentCount (name : String) (arity : Arity) (count : Nat)
  /-- The result of a function without one is used. -/
  | voidResult (name : String)
  | missingBrace (keyword : Token)
  | missingCondition (keyword : Token)
  | afterElse (token : Token)
  /-- A chain of clauses goes on after its `else`. -/
  | chainEnded (keyword : Token)
  /-- There is no clause for the keyword to go on from. -/
  | noChain (keyword : Token)
  | strayOpenBrace
  | strayCloseBrace
  | unclosedBrace
  | globalWithoutAssignment
  deriving DecidableEq

namespace GrammarError

def message : GrammarError → String
  | unexpected token => s!"unexpected '{token.display}'"
  | missingOperator second => s!"expected an operator before '{second.display}'"
  | missingLeftOperand op => s!"operator '{op.symbol}' is missing its left operand"
  | endsWithoutOperand => "expression ends without an operand"
  | missingOperandBeforeClose => "expected an operand before ')'"
  | unmatchedClose => "unbalanced parentheses: unmatched ')'"
  | unclosedParen => "unbalanced parentheses: '(' is never closed"
  | emptyParens => "empty parentheses"
  | missingArgument => "missing argument before ','"
  | commaOutsideCall => "misplaced ',' outside a function call"
  | valuesLeft count => s!"operator arity mismatch: {count} values left on the stack"
  | underflow index => s!"operator arity mismatch: stack underflow at postfix item {index}"
  | wrongArgumentCount name arity count =>
    s!"wrong number of arguments for {name}: want {arity.display}, got {count}"
  | voidResult name => s!"{name} returns no value to use"
  | missingBrace keyword => s!"expected '\x7b' after {keyword.display}"
  | missingCondition keyword => s!"{keyword.display} is missing its condition"
  | afterElse token => s!"unexpected '{token.display}' after else"
  | chainEnded keyword => s!"{keyword.display} after the final else"
  | noChain keyword => s!"{keyword.display} without a matching if"
  | strayOpenBrace => "'\x7b' is only allowed after if, elseif or else"
  | strayCloseBrace => "unmatched '\x7d'"
  | unclosedBrace => "'\x7b' is never closed"
  | globalWithoutAssignment => "global must be followed by an assignment"

end GrammarError

end EventScript
