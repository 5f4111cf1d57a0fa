import EventScript.Proofs.Expression.Climbing
import EventScript.Proofs.Outcome

/-!
# Postfix code of expressions

The one pass over the tokens that `Conversion` makes, related to the parser that climbs. Where an
expression is read, the operators that may still go on with it wait in front of what waited before.
-/

namespace EventScript

theorem Operator.yieldsTo_iff (op : Operator) (incoming : BinaryOperator) :
    op.yieldsTo incoming.val = true ↔ incoming.val.precedence < op.floor := by
  obtain ⟨incoming, arity⟩ := incoming
  cases incoming <;> cases arity
  all_goals cases op <;> decide

namespace Conversion

/-! ### Waiting operators -/

theorem write_append (written : Postfix) (first second : List Operator) :
    write written (first ++ second) = write (write written first) second :=
  List.foldl_append

theorem splitOperators_append (operators : List Operator) (pending : List Pending) :
    splitOperators (operators.map .operator ++ pending) =
      (operators ++ (splitOperators pending).1, (splitOperators pending).2) := by
  induction operators with
  | nil => rfl
  | cons op operators ih =>
    rw [List.map_cons, List.cons_append, splitOperators, ih]
    rfl

theorem splitOperators_ne_operator (pending : List Pending) (op : Operator)
    (behind : List Pending) : (splitOperators pending).2 ≠ .operator op :: behind := by
  fun_induction splitOperators pending with
  | case1 first rest operators after split ih =>
    rw [split] at ih
    exact ih
  | case2 pending noOperator =>
    rintro rfl
    exact noOperator op behind rfl

theorem splitTighter_append {incoming : Operator} {operators : List Operator}
    (yield : ∀ op ∈ operators, op.yieldsTo incoming = true) (pending : List Pending) :
    splitTighter incoming (operators.map .operator ++ pending) =
      (operators ++ (splitTighter incoming pending).1, (splitTighter incoming pending).2) := by
  induction operators with
  | nil => rfl
  | cons op operators ih =>
    have rest := ih fun other member => yield other (List.mem_cons_of_mem op member)
    rw [List.map_cons, List.cons_append, splitTighter, if_pos (yield op List.mem_cons_self), rest]
    rfl

theorem splitTighter_of_not {incoming : Operator} {pending : List Pending}
    (stays : ∀ op behind, pending = .operator op :: behind → ¬ op.yieldsTo incoming = true) :
    splitTighter incoming pending = ([], pending) := by
  unfold splitTighter
  split
  · next op behind => rw [if_neg (stays op behind rfl)]
  · rfl

/-! ### Steps -/

theorem run_step (state : Conversion) {lexeme : Lexeme} {rest : List Lexeme}
    (alone : (∀ name, lexeme.token ≠ .ident name) ∨ ¬ StartsWith .openParen rest) :
    state.run (lexeme :: rest) =
      (state.step lexeme.column lexeme.token).bind fun next => next.run rest := by
  obtain ⟨column, token⟩ := lexeme
  rw [run]
  · rfl
  · rintro name opened behind rfl rfl
    rcases alone with noName | noParen
    · exact noName name rfl
    · exact noParen ⟨opened, behind, rfl⟩

theorem run_call (state : Conversion) (column : Nat) (name : String) (opened : Nat)
    (rest : List Lexeme) :
    state.run (⟨column, .ident name⟩ :: ⟨opened, .openParen⟩ :: rest) =
      (state.await column (.ident name) (.call name 0 column) true).bind fun next =>
        next.run rest := by
  rw [run]
  rfl

variable {written : Postfix} {pending : List Pending} {opened : Bool} {lexeme : Lexeme}

theorem step_literal {value : Value} (found : lexeme.token.literal? = some value) :
    step ⟨written, pending, true, opened⟩ lexeme.column lexeme.token =
      .ok ⟨.push value :: written, pending, false, false⟩ := by
  obtain ⟨column, token⟩ := lexeme
  cases token <;> cases found <;> rfl

theorem step_unary {op : UnaryOperator} (found : lexeme.token.prefixOperator? = some op) :
    step ⟨written, pending, true, opened⟩ lexeme.column lexeme.token =
      .ok ⟨written, .operator op.val :: pending, true, false⟩ := by
  obtain ⟨column, token⟩ := lexeme
  cases token <;> cases found <;> rfl

theorem step_binary {op : BinaryOperator} (found : lexeme.token.binaryOperator? = some op) :
    step ⟨written, pending, false, opened⟩ lexeme.column lexeme.token =
      .ok ⟨write written (splitTighter op.val pending).1,
        .operator op.val :: (splitTighter op.val pending).2, true, false⟩ := by
  obtain ⟨column, token⟩ := lexeme
  cases token <;> cases found <;> rfl

theorem run_literal {value : Value} (found : lexeme.token.literal? = some value)
    (rest : List Lexeme) :
    run ⟨written, pending, true, opened⟩ (lexeme :: rest) =
      run ⟨.push value :: written, pending, false, false⟩ rest := by
  rw [run_step, step_literal found]
  · rfl
  · left
    rintro name equal
    rw [equal] at found
    cases found

theorem run_unary {op : UnaryOperator} (found : lexeme.token.prefixOperator? = some op)
    (rest : List Lexeme) :
    run ⟨written, pending, true, opened⟩ (lexeme :: rest) =
      run ⟨written, .operator op.val :: pending, true, false⟩ rest := by
  rw [run_step, step_unary found]
  · rfl
  · left
    rintro name equal
    rw [equal] at found
    cases found

theorem run_binary {op : BinaryOperator} (found : lexeme.token.binaryOperator? = some op)
    (rest : List Lexeme) :
    run ⟨written, pending, false, opened⟩ (lexeme :: rest) =
      run ⟨write written (splitTighter op.val pending).1,
        .operator op.val :: (splitTighter op.val pending).2, true, false⟩ rest := by
  rw [run_step, step_binary found]
  · rfl
  · left
    rintro name equal
    rw [equal] at found
    cases found

/-! ### Expressions on top of what waits -/

/-- The state after an expression was read on top of `written` and `pending`: the operators that may
still go on with it wait, and give way to any operator at the front of `rest`. -/
def Holds (state : Conversion) (tree : Expression) (written : Postfix) (pending : List Pending)
    (rest : List Lexeme) : Prop :=
  ∃ code operators, state = ⟨code, operators.map .operator ++ pending, false, false⟩ ∧
    write code operators = tree.code.reverse ++ written ∧
    ∀ op ∈ operators, Climbing.Looser op.floor rest

def Takes (least : Nat) (pending : List Pending) : Prop :=
  ∀ op behind, pending = .operator op :: behind → op.floor ≤ least

theorem holds_whole (tree : Expression) (written : Postfix) (pending : List Pending)
    (rest : List Lexeme) :
    Holds ⟨tree.code.reverse ++ written, pending, false, false⟩ tree written pending rest :=
  ⟨_, [], rfl, rfl, nofun⟩

section Holds

variable {state : Conversion} {tree : Expression} {rest : List Lexeme}

theorem Holds.run_closeGroup {column close : Nat}
    (holds : state.Holds tree written (.paren column :: pending) (⟨close, .closeParen⟩ :: rest)) :
    state.run (⟨close, .closeParen⟩ :: rest) =
      run ⟨tree.code.reverse ++ written, pending, false, false⟩ rest := by
  obtain ⟨code, operators, rfl, complete, -⟩ := holds
  rw [run_step, ← complete]
  · simp [step, Conversion.close, splitOperators_append, splitOperators, Except.bind]
  · exact .inl nofun

theorem Holds.run_closeCall {name : String} {count column close : Nat}
    (holds : state.Holds tree written (.call name count column :: pending)
      (⟨close, .closeParen⟩ :: rest)) :
    state.run (⟨close, .closeParen⟩ :: rest) =
      run ⟨.call name (count + 1) :: (tree.code.reverse ++ written), pending, false, false⟩
        rest := by
  obtain ⟨code, operators, rfl, complete, -⟩ := holds
  rw [run_step, ← complete]
  · simp [step, Conversion.close, splitOperators_append, splitOperators, Except.bind]
  · exact .inl nofun

theorem Holds.run_comma {name : String} {count column comma : Nat}
    (holds : state.Holds tree written (.call name count column :: pending)
      (⟨comma, .comma⟩ :: rest)) :
    state.run (⟨comma, .comma⟩ :: rest) =
      run ⟨tree.code.reverse ++ written, .call name (count + 1) column :: pending, true, false⟩
        rest := by
  obtain ⟨code, operators, rfl, complete, -⟩ := holds
  rw [run_step, ← complete]
  · simp [step, Conversion.comma, splitOperators_append, splitOperators, Except.bind]
  · exact .inl nofun

/-- An operator behind an expression releases what waits for more of the expression, and nothing
else if the operator that waits below takes it into its last operand. -/
theorem Holds.run_binary {least : Nat} {op : BinaryOperator}
    (holds : state.Holds tree written pending (lexeme :: rest)) (takes : Takes least pending)
    (found : lexeme.token.binaryOperator? = some op) (tight : least ≤ op.val.precedence) :
    state.run (lexeme :: rest) =
      run ⟨tree.code.reverse ++ written, .operator op.val :: pending, true, false⟩ rest := by
  obtain ⟨code, operators, rfl, complete, looser⟩ := holds
  have yield : ∀ other ∈ operators, other.yieldsTo op.val = true := by
    intro other member
    rw [Operator.yieldsTo_iff]
    exact looser other member lexeme rfl op found
  have stays : splitTighter op.val pending = ([], pending) := by
    refine splitTighter_of_not fun other behind equal => ?_
    rw [Operator.yieldsTo_iff]
    have := takes other behind equal
    omega
  rw [run_binary found, splitTighter_append yield, stays, List.append_nil, complete]

theorem Holds.wait {op : Operator} {whole : Expression} {below : Postfix}
    (holds : state.Holds tree below (.operator op :: pending) rest)
    (looser : Climbing.Looser op.floor rest)
    (code : .operate op :: (tree.code.reverse ++ below) = whole.code.reverse ++ written) :
    state.Holds whole written pending rest := by
  obtain ⟨before, operators, rfl, complete, loose⟩ := holds
  refine ⟨before, operators ++ [op], by simp, ?_, ?_⟩
  · rw [write_append, complete]
    exact code
  · intro other member
    rcases List.mem_append.mp member with member | member
    · exact loose other member
    · obtain rfl := List.mem_singleton.mp member
      exact looser

end Holds

/-! ### What the parser reads -/

def Reads (lexemes : List Lexeme) (tree : Expression) (pending : List Pending)
    (rest : List Lexeme) : Prop :=
  ∀ written opened, ∃ state : Conversion,
    run ⟨written, pending, true, opened⟩ lexemes = state.run rest ∧
      state.Holds tree written pending rest

def ReadsBelow (bound : Nat) : Prop :=
  ∀ lexemes : List Lexeme, lexemes.length < bound → ∀ least tree rest,
    Climbing.climb least lexemes = some (tree, rest) →
      ∀ pending, Takes least pending → Reads lexemes tree pending rest

theorem takes_paren (column : Nat) (pending : List Pending) :
    Takes 0 (.paren column :: pending) := nofun

theorem takes_call (name : String) (count column : Nat) (pending : List Pending) :
    Takes 0 (.call name count column :: pending) := nofun

theorem takes_operator (op : Operator) (pending : List Pending) :
    Takes op.floor (.operator op :: pending) := by
  intro other behind equal
  cases equal
  exact Nat.le_refl _

theorem arguments_reads {bound : Nat} (reads : ReadsBelow bound) (name : String) (column : Nat)
    {lexemes rest : List Lexeme} {trees : List Expression}
    (h : Climbing.arguments lexemes = some (trees, rest)) (short : lexemes.length < bound)
    (written : Postfix) (count : Nat) (opened : Bool) :
    run ⟨written, .call name count column :: pending, true, opened⟩ lexemes =
      run ⟨.call name (count + trees.length) :: ((Expression.codes trees).reverse ++ written),
        pending, false, false⟩ rest := by
  induction trees generalizing lexemes written count opened with
  | nil =>
    obtain ⟨tree, after, -, ⟨_, _, equal⟩ | ⟨_, _, _, _, _, equal⟩⟩ := Climbing.arguments_cases h
    · cases equal
    · cases equal
  | cons first others ih =>
    obtain ⟨tree, after, found, more⟩ := Climbing.arguments_cases h
    obtain ⟨state, runs, holds⟩ :=
      reads lexemes short 0 tree after found _ (takes_call name count column pending) written opened
    have shorter := Climbing.climb_shorter found
    rw [runs]
    rcases more with ⟨close, rfl, equal⟩ | ⟨comma, behind, trees, rfl, foundMore, equal⟩
    · cases equal
      rw [holds.run_closeCall]
      simp [Expression.codes]
    · cases equal
      rw [List.length_cons] at shorter
      rw [holds.run_comma, ih foundMore (by omega)]
      simp [Expression.codes, Nat.add_assoc, Nat.add_comm 1]

theorem primary_reads {bound : Nat} (reads : ReadsBelow bound) {lexemes rest : List Lexeme}
    {tree : Expression} (h : Climbing.primary lexemes = some (tree, rest))
    (short : lexemes.length ≤ bound) (pending : List Pending) :
    Reads lexemes tree pending rest := by
  intro written opened
  rcases Climbing.primary_cases h with ⟨lexeme, value, rfl, found, rfl⟩ |
    ⟨column, name, rfl, alone, rfl⟩ | ⟨lexeme, op, inside, operand, rfl, found, climbed, rfl⟩ |
    ⟨column, inside, close, rfl, climbed⟩ | ⟨column, name, opened, close, rfl, rfl⟩ |
    ⟨column, name, opened, inside, trees, rfl, rfl, found⟩
  · exact ⟨_, run_literal found rest, holds_whole (.literal value) written pending rest⟩
  · refine ⟨_, ?_, holds_whole (.identifier name) written pending rest⟩
    rw [run_step _ (.inr alone)]
    rfl
  · obtain ⟨state, runs, holds⟩ :=
      reads inside short op.val.floor operand rest climbed _ (takes_operator op.val pending)
        written false
    exact ⟨state, (run_unary found inside).trans runs,
      holds.wait (Climbing.climb_looser climbed) (by simp [Expression.code])⟩
  · obtain ⟨state, runs, holds⟩ :=
      reads inside short 0 tree _ climbed _ (takes_paren column pending) written true
    refine ⟨_, ?_, holds_whole tree written pending rest⟩
    rw [run_step, ← holds.run_closeGroup, ← runs]
    · rfl
    · exact .inl nofun
  · refine ⟨_, ?_, holds_whole (.call name []) written pending rest⟩
    rw [run_call]
    change run ⟨written, .call name 0 column :: pending, true, true⟩ _ = _
    rw [run_step]
    · rfl
    · exact .inl nofun
  · have fewer : inside.length < bound := by
      simp only [List.length_cons] at short
      omega
    refine ⟨_, ?_, holds_whole (.call name trees) written pending rest⟩
    rw [run_call]
    change run ⟨written, .call name 0 column :: pending, true, true⟩ inside = _
    rw [arguments_reads reads name column found fewer]
    simp [Expression.code]

theorem extend_reads {bound : Nat} (reads : ReadsBelow bound) {least : Nat}
    (takes : Takes least pending) {left tree : Expression} {lexemes rest : List Lexeme}
    (h : Climbing.extend least left lexemes = some (tree, rest)) (short : lexemes.length ≤ bound)
    {state : Conversion} (holds : state.Holds left written pending lexemes) :
    ∃ after : Conversion, state.run lexemes = after.run rest ∧
      after.Holds tree written pending rest := by
  induction size : lexemes.length using Nat.strongRecOn generalizing lexemes left state with
  | ind size ih =>
    subst size
    rcases Climbing.extend_cases h with ⟨rfl, rfl, -⟩ |
      ⟨lexeme, op, behind, right, after, rfl, found, tight, climbed, more⟩
    · exact ⟨state, rfl, holds⟩
    · have shorter := Climbing.climb_shorter climbed
      obtain ⟨next, runs, holdsRight⟩ :=
        reads behind short op.val.floor right after climbed _ (takes_operator op.val pending)
          (left.code.reverse ++ written) false
      rw [List.length_cons] at short ih
      obtain ⟨final, runsMore, holdsMore⟩ := ih after.length (by omega) more (by omega)
        (holdsRight.wait (Climbing.climb_looser climbed) (by simp [Expression.code])) rfl
      refine ⟨final, ?_, holdsMore⟩
      rw [holds.run_binary takes found tight, runs, runsMore]

/-- The pass over the tokens reads whatever the parser climbs through. -/
theorem climb_reads (bound : Nat) : ReadsBelow bound := by
  induction bound with
  | zero => exact nofun
  | succ bound ih =>
    intro lexemes short least tree rest h pending takes written opened
    rw [Climbing.climb_eq, Option.bind_eq_some_iff] at h
    obtain ⟨⟨first, after⟩, found, more⟩ := h
    have shorter := Climbing.primary_shorter found
    obtain ⟨state, runs, holds⟩ := primary_reads ih found (by omega) pending written opened
    obtain ⟨final, runsMore, holdsMore⟩ := extend_reads ih takes more (by omega) holds
    exact ⟨final, runs.trans runsMore, holdsMore⟩

end Conversion

theorem Postfix.ofLexemes_of_parse {lexemes : List Lexeme} {tree : Expression}
    (h : Expression.parse lexemes = some tree) : Postfix.ofLexemes lexemes = .ok tree.code := by
  unfold Expression.parse at h
  split at h
  · next whole found =>
    cases h
    obtain ⟨state, runs, code, operators, rfl, complete, -⟩ :=
      Conversion.climb_reads _ lexemes (Nat.lt_succ_self _) 0 tree [] found [] nofun [] false
    have nonempty : lexemes.isEmpty = false := by
      cases lexemes with
      | nil => exact absurd (Climbing.climb_shorter found) (Nat.lt_irrefl 0)
      | cons lexeme rest => rfl
    have finished : Conversion.finish ⟨code, operators.map .operator ++ [], false, false⟩
        (lastColumn lexemes) = .ok tree.code := by
      rw [Conversion.finish, if_neg nofun, Conversion.splitOperators_append]
      simp [Conversion.splitOperators, complete]
    have assembled : Postfix.assemble lexemes = .ok tree.code := by
      rw [Postfix.assemble, nonempty, if_neg nofun]
      change (Conversion.run ⟨[], [], true, false⟩ lexemes).bind _ = _
      rw [runs]
      exact finished
    rw [Postfix.ofLexemes, assembled]
    change Postfix.balanced _ tree.code = _
    rw [Postfix.balanced, tree.stackEffect_code]
    rfl
  · cases h

end EventScript
