import EventScript.Postfix

/-!
# Expression trees

What an expression says once its parentheses are read. `code` is its postfix code: every operator
and every call stands behind its operands, which keep their order.
-/

namespace EventScript

abbrev UnaryOperator : Type := { op : Operator // op.arity = 1 }

abbrev BinaryOperator : Type := { op : Operator // op.arity = 2 }

inductive Expression where
  | literal (value : Value)
  | identifier (name : String)
  | unary (op : UnaryOperator) (operand : Expression)
  | binary (op : BinaryOperator) (left right : Expression)
  | call (name : String) (arguments : List Expression)

namespace Expression

mutual

def code : Expression → Postfix
  | literal value => [.push value]
  | identifier name => [.load name]
  | unary op operand => operand.code ++ [.operate op.val]
  | binary op left right => left.code ++ (right.code ++ [.operate op.val])
  | call name arguments => codes arguments ++ [.call name arguments.length]

def codes : List Expression → Postfix
  | [] => []
  | first :: rest => first.code ++ codes rest

end

mutual

/-- The code of an expression leaves one value more on the stack, whatever stands below it. -/
theorem depthFrom_code (index depth : Nat) (rest : Postfix) (expression : Expression) :
    Postfix.depthFrom index depth (expression.code ++ rest) =
      Postfix.depthFrom (index + expression.code.length) (depth + 1) rest := by
  cases expression with
  | literal value => simp [code, Postfix.depthFrom, Instruction.pops]
  | identifier name => simp [code, Postfix.depthFrom, Instruction.pops]
  | unary op operand =>
    rw [code, List.append_assoc, depthFrom_code]
    simp [Postfix.depthFrom, Instruction.pops, op.property, Nat.add_assoc]
  | binary op left right =>
    rw [code, List.append_assoc, List.append_assoc, depthFrom_code, depthFrom_code]
    simp [Postfix.depthFrom, Instruction.pops, op.property, Nat.add_assoc]
  | call name arguments =>
    rw [code, List.append_assoc, depthFrom_codes]
    simp [Postfix.depthFrom, Instruction.pops, Nat.add_assoc]

theorem depthFrom_codes (index depth : Nat) (rest : Postfix) (expressions : List Expression) :
    Postfix.depthFrom index depth (codes expressions ++ rest) =
      Postfix.depthFrom (index + (codes expressions).length) (depth + expressions.length) rest := by
  cases expressions with
  | nil => simp [codes]
  | cons first more =>
    rw [codes, List.append_assoc, depthFrom_code, depthFrom_codes, List.length_append,
      List.length_cons, Nat.add_assoc, Nat.add_assoc, Nat.add_comm 1]

end

theorem stackEffect_code (expression : Expression) :
    Postfix.stackEffect expression.code = .ok 1 := by
  have effect := depthFrom_code 0 0 [] expression
  rw [List.append_nil] at effect
  exact effect

end Expression

end EventScript
