import EventScript.Postfix.OfTokens
import EventScript.Proofs.Expression.Tree

/-!
# The grammar of expressions

Which tokens spell an expression: operands, behind any number of prefix operators, joined by
operators between two operands. How tightly the operators bind plays no part in this.
-/

namespace EventScript

namespace Token

def literal? : Token → Option Value
  | number x => some (.number x)
  | text s => some (.text s)
  | trueKeyword => some (.boolean true)
  | falseKeyword => some (.boolean false)
  | _ => none

def prefixOperator? : Token → Option UnaryOperator
  | plus => some ⟨.identity, rfl⟩
  | minus => some ⟨.negate, rfl⟩
  | notKeyword => some ⟨.not, rfl⟩
  | _ => none

def binaryOperator? : Token → Option BinaryOperator
  | plus => some ⟨.plus, rfl⟩
  | minus => some ⟨.minus, rfl⟩
  | asterisk => some ⟨.times, rfl⟩
  | slash => some ⟨.divide, rfl⟩
  | percent => some ⟨.modulo, rfl⟩
  | caret => some ⟨.power, rfl⟩
  | less => some ⟨.less, rfl⟩
  | lessEq => some ⟨.lessEq, rfl⟩
  | greater => some ⟨.greater, rfl⟩
  | greaterEq => some ⟨.greaterEq, rfl⟩
  | equal => some ⟨.equal, rfl⟩
  | notEqual => some ⟨.notEqual, rfl⟩
  | andKeyword => some ⟨.and, rfl⟩
  | orKeyword => some ⟨.or, rfl⟩
  | _ => none

end Token

def StartsWith (token : Token) (lexemes : List Lexeme) : Prop :=
  ∃ column rest, lexemes = ⟨column, token⟩ :: rest

mutual

inductive IsExpression : List Lexeme → Prop where
  | operand {lexemes : List Lexeme} : IsOperand lexemes → IsExpression lexemes
  | prefixed {lexeme : Lexeme} {op : UnaryOperator} {operand : List Lexeme} :
      lexeme.token.prefixOperator? = some op → IsExpression operand →
      IsExpression (lexeme :: operand)
  | joined {left right : List Lexeme} {lexeme : Lexeme} {op : BinaryOperator} :
      IsExpression left → lexeme.token.binaryOperator? = some op → IsExpression right →
      IsExpression (left ++ lexeme :: right)

/-- Nothing puts a parenthesis right behind an operand, so an identifier in front of a parenthesis
always starts a call. -/
inductive IsOperand : List Lexeme → Prop where
  | literal {lexeme : Lexeme} {value : Value} :
      lexeme.token.literal? = some value → IsOperand [lexeme]
  | identifier (column : Nat) (name : String) : IsOperand [⟨column, .ident name⟩]
  | group (column : Nat) {inside : List Lexeme} (close : Nat) :
      IsExpression inside → IsOperand (⟨column, .openParen⟩ :: (inside ++ [⟨close, .closeParen⟩]))
  | emptyCall (column : Nat) (name : String) (opened close : Nat) :
      IsOperand [⟨column, .ident name⟩, ⟨opened, .openParen⟩, ⟨close, .closeParen⟩]
  | call (column : Nat) (name : String) (opened : Nat) {inside : List Lexeme} (close : Nat) :
      IsArguments inside →
      IsOperand
        (⟨column, .ident name⟩ :: ⟨opened, .openParen⟩ :: (inside ++ [⟨close, .closeParen⟩]))

inductive IsArguments : List Lexeme → Prop where
  | last {lexemes : List Lexeme} : IsExpression lexemes → IsArguments lexemes
  | cons {first rest : List Lexeme} (column : Nat) :
      IsExpression first → IsArguments rest → IsArguments (first ++ ⟨column, .comma⟩ :: rest)

end

inductive IsTail : List Lexeme → Prop where
  | nil : IsTail []
  | cons {lexeme : Lexeme} {op : BinaryOperator} {right : List Lexeme} :
      lexeme.token.binaryOperator? = some op → IsExpression right → IsTail (lexeme :: right)

theorem IsExpression.append {lexemes tail : List Lexeme} (expression : IsExpression lexemes)
    (rest : IsTail tail) : IsExpression (lexemes ++ tail) := by
  cases rest with
  | nil => rwa [List.append_nil]
  | cons between right => exact .joined expression between right

theorem IsTail.append {tail rest : List Lexeme} (first : IsTail tail) (second : IsTail rest) :
    IsTail (tail ++ rest) := by
  cases first with
  | nil => exact second
  | cons between right => exact .cons between (right.append second)

theorem IsExpression.start {lexemes : List Lexeme} (expression : IsExpression lexemes) :
    (∃ lexeme op operand, lexemes = lexeme :: operand ∧
      lexeme.token.prefixOperator? = some op ∧ IsExpression operand) ∨
    (∃ operand tail, lexemes = operand ++ tail ∧ IsOperand operand ∧ IsTail tail) := by
  match expression with
  | .operand whole => exact .inr ⟨_, [], (List.append_nil _).symm, whole, .nil⟩
  | .prefixed found inner => exact .inl ⟨_, _, _, rfl, found, inner⟩
  | .joined left between right =>
    have tail := IsTail.cons between right
    rcases left.start with ⟨lexeme, op, _, rfl, found, inner⟩ | ⟨first, rest, rfl, whole, more⟩
    · exact .inl ⟨lexeme, op, _, rfl, found, inner.append tail⟩
    · exact .inr ⟨first, _, List.append_assoc .., whole, more.append tail⟩

/-- Expressions that are arguments do not start with the end of the call. -/
theorem IsExpression.not_startsWith_close {lexemes : List Lexeme}
    (expression : IsExpression lexemes) (rest : List Lexeme) :
    ¬ StartsWith .closeParen (lexemes ++ rest) := by
  rintro ⟨column, behind, equal⟩
  rcases expression.start with ⟨lexeme, op, operand, rfl, found, -⟩ | ⟨operand, tail, rfl, whole, -⟩
  · cases equal
    cases found
  · cases whole with
    | literal found =>
      cases equal
      cases found
    | _ => cases equal

theorem IsArguments.not_startsWith_close {lexemes : List Lexeme}
    (arguments : IsArguments lexemes) (rest : List Lexeme) :
    ¬ StartsWith .closeParen (lexemes ++ rest) := by
  cases arguments with
  | last expression => exact expression.not_startsWith_close rest
  | cons column first more =>
    rw [List.append_assoc]
    exact first.not_startsWith_close _

theorem IsTail.not_startsWith_open {tail rest : List Lexeme} (isTail : IsTail tail)
    (alone : ¬ StartsWith .openParen rest) : ¬ StartsWith .openParen (tail ++ rest) := by
  cases isTail with
  | nil => exact alone
  | cons between right =>
    rintro ⟨column, behind, equal⟩
    cases equal
    cases between

end EventScript
