import EventScript.Function
import EventScript.Proofs.Expression.Tree

/-!
# Depth of the stack

How deep the stack grows under postfix code, where a call of a function without a value leaves
nothing on it.
-/

namespace EventScript

def Registry.isVoid (registry : Registry) (name : String) : Bool :=
  (registry.get? name).any fun function => !function.returnsValue

theorem Registry.isVoid_none {registry : Registry} {name : String}
    (found : registry.get? name = none) : registry.isVoid name = false := by
  rw [isVoid, found]
  rfl

theorem Registry.isVoid_some {registry : Registry} {name : String} {function : Function}
    (found : registry.get? name = some function) :
    registry.isVoid name = !function.returnsValue := by
  rw [isVoid, found]
  rfl

def Instruction.pushes (registry : Registry) : Instruction → Nat
  | call name _ => if registry.isVoid name then 0 else 1
  | _ => 1

theorem Instruction.pushes_void {registry : Registry} {name : String} {count : Nat}
    (void : registry.isVoid name = true) : (call name count).pushes registry = 0 := by
  rw [pushes, void]
  rfl

theorem Instruction.pushes_call {registry : Registry} {name : String} {count : Nat}
    (gives : registry.isVoid name = false) : (call name count).pushes registry = 1 := by
  rw [pushes, gives]
  rfl

/-- The largest depth that the stack has while the code runs on a stack of depth `depth`. -/
def Postfix.need (registry : Registry) (depth : Nat) : Postfix → Nat
  | [] => depth
  | instruction :: code =>
    max depth (need registry (depth - instruction.pops + instruction.pushes registry) code)

theorem Postfix.le_need (registry : Registry) (depth : Nat) (code : Postfix) :
    depth ≤ Postfix.need registry depth code := by
  cases code with
  | nil => exact Nat.le_refl depth
  | cons instruction code => exact Nat.le_max_left ..

theorem Postfix.need_le_cons (registry : Registry) (depth : Nat) (instruction : Instruction)
    (code : Postfix) :
    Postfix.need registry (depth - instruction.pops + instruction.pushes registry) code ≤
      Postfix.need registry depth (instruction :: code) :=
  Nat.le_max_right ..

namespace Expression

mutual

/-- Whether no call in the expression is of a function without a value. -/
def HasValue (registry : Registry) : Expression → Prop
  | literal _ | identifier _ => True
  | unary _ operand => operand.HasValue registry
  | binary _ left right => left.HasValue registry ∧ right.HasValue registry
  | call name arguments => registry.isVoid name = false ∧ HaveValues registry arguments

def HaveValues (registry : Registry) : List Expression → Prop
  | [] => True
  | first :: rest => first.HasValue registry ∧ HaveValues registry rest

end

variable {registry : Registry}

mutual

/-- The code of an expression with a value needs room for the value. -/
theorem need_le_code (depth : Nat) (rest : Postfix) {expression : Expression}
    (valued : expression.HasValue registry) :
    Postfix.need registry (depth + 1) rest ≤
      Postfix.need registry depth (expression.code ++ rest) := by
  cases expression with
  | literal value => exact Postfix.need_le_cons registry depth (.push value) rest
  | identifier name => exact Postfix.need_le_cons registry depth (.load name) rest
  | unary op operand =>
    have valued : operand.HasValue registry := valued
    have inner := need_le_code depth (.operate op.val :: rest) valued
    have outer := Postfix.need_le_cons registry (depth + 1) (.operate op.val) rest
    simp only [Instruction.pops, Instruction.pushes, op.property, Nat.add_sub_cancel] at outer
    rw [code, List.append_assoc]
    exact Nat.le_trans outer inner
  | binary op left right =>
    have first := need_le_code depth (right.code ++ .operate op.val :: rest) valued.1
    have second := need_le_code (depth + 1) (.operate op.val :: rest) valued.2
    have outer := Postfix.need_le_cons registry (depth + 2) (.operate op.val) rest
    simp only [Instruction.pops, Instruction.pushes, op.property, Nat.add_sub_cancel] at outer
    rw [code, List.append_assoc, List.append_assoc]
    exact Nat.le_trans outer (Nat.le_trans second first)
  | call name arguments =>
    obtain ⟨gives, valued⟩ := valued
    have inner := need_le_codes depth (.call name arguments.length :: rest) valued
    have outer :=
      Postfix.need_le_cons registry (depth + arguments.length) (.call name arguments.length) rest
    rw [Instruction.pushes_call gives, Instruction.pops, Nat.add_sub_cancel] at outer
    rw [code, List.append_assoc]
    exact Nat.le_trans outer inner

theorem need_le_codes (depth : Nat) (rest : Postfix) {expressions : List Expression}
    (valued : HaveValues registry expressions) :
    Postfix.need registry (depth + expressions.length) rest ≤
      Postfix.need registry depth (codes expressions ++ rest) := by
  cases expressions with
  | nil => exact Nat.le_refl _
  | cons first more =>
    have inner := need_le_code depth (codes more ++ rest) valued.1
    have outer := need_le_codes (depth + 1) rest valued.2
    rw [codes, List.append_assoc, List.length_cons, Nat.add_comm more.length, ← Nat.add_assoc]
    exact Nat.le_trans outer inner

end

end Expression

end EventScript
