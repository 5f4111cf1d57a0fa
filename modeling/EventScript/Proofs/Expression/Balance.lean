import EventScript.Proofs.Expression.Columns
import EventScript.Proofs.Expression.Conversion
import Mathlib.Algebra.GroupWithZero.Nat

/-!
# Balanced code

What the code of an expression leaves on the stack is spoken for at every token: an operator between
two operands waits with its left one, a call with the arguments that a comma has ended, and the
operand that was just read is one more. So the code leaves one value in the end, and to check that
never refuses an expression.
-/

namespace EventScript

/-! ### Code with one more instruction -/

namespace Postfix

theorem depthFrom_append (index depth : Nat) (first second : Postfix) :
    depthFrom index depth (first ++ second) =
      depthFrom index depth first >>= fun deeper =>
        depthFrom (index + first.length) deeper second := by
  induction first generalizing index depth with
  | nil => rfl
  | cons instruction first ih =>
    rw [List.cons_append, depthFrom, depthFrom]
    split
    · rw [ih, List.length_cons, Nat.add_assoc, Nat.add_comm 1]
    · rfl

theorem stackEffect_snoc {code : Postfix} {depth : Nat} {instruction : Instruction}
    (effect : code.stackEffect = .ok depth) (enough : instruction.pops ≤ depth) :
    stackEffect (code ++ [instruction]) = .ok (depth - instruction.pops + 1) := by
  unfold stackEffect at effect ⊢
  rw [depthFrom_append, effect]
  exact if_pos enough

end Postfix

namespace Pending

def isBinary : Pending → Bool
  | operator op => op.arity == 2
  | _ => false

/-- How many arguments of the entry a comma has ended, if it is a call. -/
def completed : Pending → Nat
  | call _ count _ => count
  | _ => 0

def isFresh : Pending → Bool
  | paren _ => true
  | call _ count _ => count == 0
  | operator _ => false

end Pending

namespace Conversion

/-! ### What the values are for -/

/-- How many values wait on the stack for what is pending. -/
def owed (pending : List Pending) : Nat :=
  pending.countP Pending.isBinary + (pending.map Pending.completed).sum

theorem owed_cons (entry : Pending) (pending : List Pending) :
    owed (entry :: pending) =
      (if entry.isBinary then 1 else 0) + entry.completed + owed pending := by
  rw [owed, owed, List.countP_cons, List.map_cons, List.sum_cons]
  omega

@[simp] theorem owed_paren (column : Nat) (pending : List Pending) :
    owed (.paren column :: pending) = owed pending := by
  simp [owed_cons, Pending.isBinary, Pending.completed]

@[simp] theorem owed_call (name : String) (count column : Nat) (pending : List Pending) :
    owed (.call name count column :: pending) = count + owed pending := by
  simp [owed_cons, Pending.isBinary, Pending.completed]

/-- An operator that gets its last operand takes its values off the stack and leaves one there. -/
theorem owed_operator (op : Operator) (pending : List Pending) :
    owed (.operator op :: pending) + 1 = op.arity + owed pending := by
  rw [owed_cons]
  cases op <;> simp [Pending.isBinary, Pending.completed, Operator.arity] <;> omega

theorem owed_unary (op : Operator) (one : op.arity = 1) (pending : List Pending) :
    owed (.operator op :: pending) = owed pending := by
  have owes := owed_operator op pending
  omega

theorem owed_binary {op : Operator} (two : op.arity = 2) (pending : List Pending) :
    owed (.operator op :: pending) = owed pending + 1 := by
  have owes := owed_operator op pending
  omega

/-- Whether the code, its latest instruction in front, leaves this many values on an empty stack. -/
def Leaves (written : Postfix) (depth : Nat) : Prop :=
  Postfix.stackEffect written.reverse = .ok depth

theorem Leaves.cons {written : Postfix} {depth : Nat} (leaves : Leaves written depth)
    (instruction : Instruction) (enough : instruction.pops ≤ depth) :
    Leaves (instruction :: written) (depth - instruction.pops + 1) := by
  rw [Leaves, List.reverse_cons]
  exact Postfix.stackEffect_snoc leaves enough

theorem Leaves.write {written : Postfix} {operators : List Operator} {behind : List Pending}
    (leaves : Leaves written (owed (operators.map .operator ++ behind) + 1)) :
    Leaves (write written operators) (owed behind + 1) := by
  induction operators generalizing written with
  | nil => exact leaves
  | cons op operators ih =>
    rw [List.map_cons, List.cons_append, owed_operator] at leaves
    have one := leaves.cons (.operate op) (Nat.le_add_right ..)
    rw [Instruction.pops, Nat.add_sub_cancel_left] at one
    exact ih one

theorem map_splitOperators (pending : List Pending) :
    (splitOperators pending).1.map .operator ++ (splitOperators pending).2 = pending := by
  fun_induction splitOperators pending with
  | case1 op rest operators behind split ih =>
    rw [split] at ih
    exact congrArg (.operator op :: ·) ih
  | case2 => rfl

theorem map_splitTighter (incoming : Operator) (pending : List Pending) :
    (splitTighter incoming pending).1.map .operator ++ (splitTighter incoming pending).2 =
      pending := by
  fun_induction splitTighter incoming pending with
  | case1 op rest yields operators behind split ih =>
    rw [split] at ih
    exact congrArg (.operator op :: ·) ih
  | case2 => rfl
  | case3 => rfl

/-- Operators that get their last operand at once leave what is owed to the entries behind them. -/
theorem Leaves.splitOperators {written : Postfix} {pending : List Pending}
    (leaves : Leaves written (owed pending + 1)) :
    Leaves (Conversion.write written (Conversion.splitOperators pending).1)
      (owed (Conversion.splitOperators pending).2 + 1) := by
  rw [← map_splitOperators pending] at leaves
  exact leaves.write

theorem Leaves.splitTighter {written : Postfix} {pending : List Pending} (incoming : Operator)
    (leaves : Leaves written (owed pending + 1)) :
    Leaves (Conversion.write written (Conversion.splitTighter incoming pending).1)
      (owed (Conversion.splitTighter incoming pending).2 + 1) := by
  rw [← map_splitTighter incoming pending] at leaves
  exact leaves.write

/-! ### What a step keeps -/

/-- Whether the values that the code leaves are those that wait for what is pending, and one more
after an operand. A group that was just opened has nothing in it. -/
structure Balanced (state : Conversion) : Prop where
  leaves : Leaves state.written
    (owed state.pending + if state.wantsOperand then 0 else 1)
  opened : state.justOpened = true → state.wantsOperand = true ∧
    ∃ group behind, state.pending = group :: behind ∧ group.isFresh = true

theorem balanced_start : start.Balanced := ⟨rfl, nofun⟩

namespace Balanced

variable {state next : Conversion} {column : Nat} {token : Token}

theorem leaves_wanting (balanced : state.Balanced) (wants : state.wantsOperand = true) :
    Leaves state.written (owed state.pending) := by
  have leaves := balanced.leaves
  rwa [wants] at leaves

theorem leaves_complete (balanced : state.Balanced) (complete : ¬ state.wantsOperand = true) :
    Leaves state.written (owed state.pending + 1) := by
  have leaves := balanced.leaves
  rwa [if_neg complete] at leaves

theorem operand {instruction : Instruction} (balanced : state.Balanced)
    (constant : instruction.pops = 0)
    (stepped : state.operand column token instruction = .ok next) : next.Balanced := by
  unfold Conversion.operand at stepped
  split at stepped
  · next wants =>
    cases stepped
    have leaves := (balanced.leaves_wanting wants).cons instruction (by omega)
    rw [constant] at leaves
    exact ⟨leaves, nofun⟩
  · cases stepped

theorem await {entry : Pending} {opened : Bool} (balanced : state.Balanced)
    (owes : owed (entry :: state.pending) = owed state.pending)
    (fresh : opened = true → entry.isFresh = true)
    (stepped : state.await column token entry opened = .ok next) : next.Balanced := by
  unfold Conversion.await at stepped
  split at stepped
  · next wants =>
    cases stepped
    refine ⟨?_, fun isOpened => ⟨wants, entry, state.pending, rfl, fresh isOpened⟩⟩
    dsimp only
    rw [owes]
    exact balanced.leaves
  · cases stepped

theorem binary {incoming : Operator} (balanced : state.Balanced) (two : incoming.arity = 2)
    (stepped : state.binary column incoming = .ok next) : next.Balanced := by
  unfold Conversion.binary at stepped
  split at stepped
  · cases stepped
  · next complete =>
    cases stepped
    refine ⟨?_, nofun⟩
    dsimp only
    rw [owed_binary two]
    exact (balanced.leaves_complete complete).splitTighter incoming

theorem sign {asSign between : Operator} (balanced : state.Balanced) (one : asSign.arity = 1)
    (two : between.arity = 2) (stepped : state.sign column asSign between = .ok next) :
    next.Balanced := by
  unfold Conversion.sign at stepped
  split at stepped
  · next wants =>
    cases stepped
    refine ⟨?_, nofun⟩
    dsimp only
    rw [owed_unary _ one]
    exact balanced.leaves
  · exact balanced.binary two stepped

theorem close (balanced : state.Balanced) (stepped : state.close column = .ok next) :
    next.Balanced := by
  unfold Conversion.close at stepped
  split at stepped
  · cases stepped
  · next ready =>
    cases opened : state.justOpened with
    | true =>
      -- Nothing stands between the parentheses, so there is no operator to write.
      obtain ⟨wants, group, behind, waits, fresh⟩ := balanced.opened opened
      have leaves := balanced.leaves_wanting wants
      rw [opened, waits] at stepped
      rw [waits] at leaves
      cases group with
      | operator op => cases fresh
      | paren begun => cases stepped
      | call name count begun =>
        cases stepped
        obtain rfl : count = 0 := eq_of_beq fresh
        rw [owed_call, Nat.zero_add] at leaves
        exact ⟨leaves.cons (.call name 0) (Nat.zero_le _), nofun⟩
    | false =>
      have complete : ¬ state.wantsOperand = true := by
        intro wants
        rw [wants, opened] at ready
        exact ready rfl
      have leaves := (balanced.leaves_complete complete).splitOperators
      rw [opened] at stepped
      dsimp only at stepped
      split at stepped
      · next begun rest waits =>
        cases stepped
        rw [waits, owed_paren] at leaves
        exact ⟨leaves, nofun⟩
      · next name count begun rest waits =>
        cases stepped
        rw [waits, owed_call, Nat.add_right_comm] at leaves
        have one := leaves.cons (.call name (count + 1)) (Nat.le_add_right ..)
        rw [Instruction.pops, Nat.add_sub_cancel_left] at one
        exact ⟨one, nofun⟩
      · cases stepped

theorem comma (balanced : state.Balanced) (stepped : state.comma column = .ok next) :
    next.Balanced := by
  unfold Conversion.comma at stepped
  split at stepped
  · cases stepped
  · next complete =>
    have leaves := (balanced.leaves_complete complete).splitOperators
    dsimp only at stepped
    split at stepped
    · next name count begun rest waits =>
      cases stepped
      rw [waits, owed_call, Nat.add_right_comm] at leaves
      refine ⟨?_, nofun⟩
      rw [owed_call]
      exact leaves
    · cases stepped

theorem step (balanced : state.Balanced) (stepped : state.step column token = .ok next) :
    next.Balanced := by
  cases token
  case number | text | trueKeyword | falseKeyword | ident => exact balanced.operand rfl stepped
  case openParen => exact balanced.await (owed_paren _ _) (fun _ => rfl) stepped
  case notKeyword =>
    refine balanced.await (owed_unary .not rfl _) ?_ stepped
    exact nofun
  case closeParen => exact balanced.close stepped
  case comma => exact balanced.comma stepped
  case plus | minus => exact balanced.sign rfl rfl stepped
  case assign | semicolon | openBrace | closeBrace | ifKeyword | elseifKeyword | elseKeyword |
      globalKeyword => cases stepped
  all_goals exact balanced.binary rfl stepped

theorem finish {last : Nat} {code : Postfix} (balanced : state.Balanced)
    (finished : state.finish last = .ok code) : code.stackEffect = .ok 1 := by
  unfold Conversion.finish at finished
  split at finished
  · cases finished
  · next complete =>
    have leaves := (balanced.leaves_complete complete).splitOperators
    dsimp only at finished
    split at finished
    · cases finished
    · cases finished
    · next noParen noCall =>
      cases finished
      have alone : (Conversion.splitOperators state.pending).2 = [] := by
        match waits : (Conversion.splitOperators state.pending).2 with
        | [] => rfl
        | .paren column :: rest => exact absurd waits (noParen column rest)
        | .call name count column :: rest => exact absurd waits (noCall name count column rest)
        | .operator op :: rest => exact absurd waits (splitOperators_ne_operator _ op rest)
      rw [alone] at leaves
      exact leaves

end Balanced

/-! ### Passes over tokens -/

/-- How the pass over tokens comes from one state to another: it reads a token, or a name with the
parenthesis that makes it a call, and then whatever comes next. The tokens that are left stand
last. -/
inductive Passes (start : Conversion) (lexemes : List Lexeme) :
    Conversion → List Lexeme → Prop where
  | here : Passes start lexemes start lexemes
  | call {state next : Conversion} {column opened : Nat} {name : String} {rest : List Lexeme}
    (passes : Passes start lexemes state (⟨column, .ident name⟩ :: ⟨opened, .openParen⟩ :: rest))
    (awaited : state.await column (.ident name) (.call name 0 column) true = .ok next) :
    Passes start lexemes next rest
  | token {state next : Conversion} {column : Nat} {token : Token} {rest : List Lexeme}
    (passes : Passes start lexemes state (⟨column, token⟩ :: rest))
    (noCall : ∀ name opened behind, rest = ⟨opened, .openParen⟩ :: behind →
      token = .ident name → False)
    (stepped : state.step column token = .ok next) : Passes start lexemes next rest

variable {start state final : Conversion} {lexemes rest : List Lexeme}

/-- From where the pass has come to, it goes on as from the start. -/
theorem Passes.run_eq (passes : Passes start lexemes state rest) :
    start.run lexemes = state.run rest := by
  induction passes with
  | here => rfl
  | call _ awaited ih =>
    rw [ih, Conversion.run, awaited]
    rfl
  | token _ noCall stepped ih =>
    rw [ih, Conversion.run, stepped]
    · rfl
    · exact noCall

theorem Passes.complete (passes : Passes start lexemes state rest)
    (ran : state.run rest = .ok final) : Passes start lexemes final [] := by
  induction state, rest using run.induct with
  | case1 state =>
    cases ran
    exact passes
  | case2 state column name opened rest ih =>
    obtain ⟨next, awaited, ran⟩ := bind_ok ran
    exact ih next (passes.call awaited) ran
  | case3 state column token rest noCall ih =>
    rw [Conversion.run] at ran
    · obtain ⟨next, stepped, ran⟩ := bind_ok ran
      exact ih next (passes.token noCall stepped) ran
    · exact noCall

/-- The pass comes to its end if it comes to a state in which no token is left. -/
theorem run_eq_ok_iff : start.run lexemes = .ok final ↔ Passes start lexemes final [] := by
  constructor
  · exact Passes.here.complete
  · exact fun passes => passes.run_eq.trans rfl

/-- A pass that begins in balance is in balance at every token. -/
theorem Passes.balanced (passes : Passes start lexemes state rest) (balanced : start.Balanced) :
    state.Balanced := by
  induction passes with
  | here => exact balanced
  | call _ awaited ih => exact ih.await (by simp) (fun _ => rfl) awaited
  | token _ _ stepped ih => exact ih.step stepped

end Conversion

namespace Postfix

theorem stackEffect_of_assemble {lexemes : List Lexeme} {code : Postfix}
    (assembled : assemble lexemes = .ok code) : code.stackEffect = .ok 1 := by
  unfold assemble at assembled
  split at assembled
  · cases assembled
  · obtain ⟨final, ran, finished⟩ := bind_ok assembled
    have passes := Conversion.run_eq_ok_iff.mp ran
    exact (passes.balanced Conversion.balanced_start).finish finished

/-- To check the effect of the code on the stack refuses nothing. -/
theorem ofLexemes_eq_assemble (lexemes : List Lexeme) : ofLexemes lexemes = assemble lexemes := by
  unfold ofLexemes
  cases assembled : assemble lexemes with
  | error error => rfl
  | ok code =>
    change balanced _ code = _
    rw [balanced, stackEffect_of_assemble assembled]
    rfl

/-- At every token that the pass over an expression comes to, the code written so far leaves one
value for each operator between two operands that is pending and for each argument that a comma has
ended in an open call, and one more where an operator has to come next. So the code of the whole
leaves one value, and no expression is refused for what its code leaves. -/
theorem assembled_code_balanced (lexemes : List Lexeme) :
    (∀ (state : Conversion) (rest : List Lexeme), Conversion.start.Passes lexemes state rest →
      Conversion.start.run lexemes = state.run rest ∧
        stackEffect state.written.reverse =
          .ok (state.pending.countP Pending.isBinary + (state.pending.map Pending.completed).sum +
            if state.wantsOperand then 0 else 1)) ∧
      (∀ final, Conversion.start.run lexemes = .ok final ↔
        Conversion.start.Passes lexemes final []) ∧
      (∀ code, assemble lexemes = .ok code → code.stackEffect = .ok 1) ∧
      ofLexemes lexemes = assemble lexemes ∧
      ∀ column cause, ofLexemes lexemes = .error (.at column cause) →
        (∀ count, cause ≠ .valuesLeft count) ∧ ∀ index, cause ≠ .underflow index := by
  refine ⟨?_, fun final => Conversion.run_eq_ok_iff, fun code => stackEffect_of_assemble,
    ofLexemes_eq_assemble lexemes, ?_⟩
  · intro state rest passes
    exact ⟨passes.run_eq, (passes.balanced Conversion.balanced_start).leaves⟩
  · intro column cause failed
    rw [ofLexemes_eq_assemble] at failed
    have nonempty : lexemes ≠ [] := by
      rintro rfl
      cases failed
    obtain ⟨_, _, same, misplaced⟩ := assemble_refuses nonempty _ failed
    cases same
    constructor
    · rintro count rfl
      cases misplaced
    · rintro index rfl
      cases misplaced

end Postfix

end EventScript
