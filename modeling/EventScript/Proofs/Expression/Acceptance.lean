import EventScript.Proofs.Expression.Conversion

/-!
# Accepted expressions

The pass over the tokens comes to its end over expressions only, so the tokens that have code are
those that the parser reads.
-/

namespace EventScript

namespace Conversion

/-! ### Single steps -/

theorem step_cases {state next : Conversion} {lexeme : Lexeme}
    (h : state.step lexeme.column lexeme.token = .ok next) :
    (state.wantsOperand = true ∧ IsOperand [lexeme] ∧
      ∃ written, next = ⟨written, state.pending, false, false⟩) ∨
    (state.wantsOperand = true ∧ lexeme.token = .openParen ∧
      next = ⟨state.written, .paren lexeme.column :: state.pending, true, true⟩) ∨
    (state.wantsOperand = true ∧ ∃ op, lexeme.token.prefixOperator? = some op ∧
      next = ⟨state.written, .operator op.val :: state.pending, true, false⟩) ∨
    (state.wantsOperand = false ∧ ∃ op, lexeme.token.binaryOperator? = some op ∧
      ∃ written, next =
        ⟨written, .operator op.val :: (splitTighter op.val state.pending).2, true, false⟩) ∨
    (lexeme.token = .closeParen ∧ state.close lexeme.column = .ok next) ∨
    (lexeme.token = .comma ∧ state.comma lexeme.column = .ok next) := by
  obtain ⟨column, token⟩ := lexeme
  obtain ⟨written, pending, wantsOperand, justOpened⟩ := state
  cases token
  case closeParen => exact .inr (.inr (.inr (.inr (.inl ⟨rfl, h⟩))))
  case comma => exact .inr (.inr (.inr (.inr (.inr ⟨rfl, h⟩))))
  all_goals cases wantsOperand <;> cases h
  case number | text | trueKeyword | falseKeyword =>
    exact .inl ⟨rfl, .literal rfl, _, rfl⟩
  case ident => exact .inl ⟨rfl, .identifier _ _, _, rfl⟩
  case openParen => exact .inr (.inl ⟨rfl, rfl, rfl⟩)
  case plus.true | minus.true | notKeyword => exact .inr (.inr (.inl ⟨rfl, _, rfl, rfl⟩))
  all_goals exact .inr (.inr (.inr (.inl ⟨rfl, _, rfl, _, rfl⟩)))

/-! ### What completes a state -/

/-- What may stand where an expression ends within all that waits for its end. -/
inductive Closes : List Pending → List Lexeme → Prop where
  | done : Closes [] []
  | operator {op : Operator} {pending : List Pending} {rest : List Lexeme} :
      Closes pending rest → Closes (.operator op :: pending) rest
  | group {column : Nat} {pending : List Pending} {tail rest : List Lexeme} (close : Nat) :
      IsTail tail → Closes pending rest →
      Closes (.paren column :: pending) (⟨close, .closeParen⟩ :: (tail ++ rest))
  | call {name : String} {count column : Nat} {pending : List Pending} {tail rest : List Lexeme}
      (close : Nat) : IsTail tail → Closes pending rest →
      Closes (.call name count column :: pending) (⟨close, .closeParen⟩ :: (tail ++ rest))
  | comma {name : String} {count next column : Nat} {pending : List Pending}
      {argument rest : List Lexeme} (comma : Nat) : IsExpression argument →
      Closes (.call name next column :: pending) rest →
      Closes (.call name count column :: pending) (⟨comma, .comma⟩ :: (argument ++ rest))

theorem Closes.of_splitOperators {pending : List Pending} {rest : List Lexeme}
    (closes : Closes (splitOperators pending).2 rest) : Closes pending rest := by
  fun_induction splitOperators pending with
  | case1 op behind operators after split ih =>
    rw [split] at ih
    exact .operator (ih closes)
  | case2 => exact closes

theorem Closes.of_splitTighter {incoming : Operator} {pending : List Pending} {rest : List Lexeme}
    (closes : Closes (splitTighter incoming pending).2 rest) : Closes pending rest := by
  fun_induction splitTighter incoming pending with
  | case1 op behind yields operators after split ih =>
    rw [split] at ih
    exact .operator (ih closes)
  | case2 => exact closes
  | case3 => exact closes

/-- An argument with what ends its call are the arguments of the call. -/
theorem Closes.arguments {name : String} {count column : Nat} {pending : List Pending}
    {first rest : List Lexeme}
    (closes : Closes (.call name count column :: pending) rest) (expression : IsExpression first) :
    ∃ inside close tail behind, first ++ rest = inside ++ ⟨close, .closeParen⟩ :: (tail ++ behind) ∧
      IsArguments inside ∧ IsTail tail ∧ Closes pending behind := by
  generalize waiting : Pending.call name count column :: pending = all at closes
  induction closes generalizing first count with
  | done => cases waiting
  | operator => cases waiting
  | group => cases waiting
  | call close isTail closes =>
    cases waiting
    exact ⟨first, close, _, _, rfl, .last expression, isTail, closes⟩
  | comma comma argument closes ih =>
    cases waiting
    obtain ⟨inside, close, tail, behind, equal, more, isTail, closesBehind⟩ := ih argument rfl
    refine ⟨first ++ ⟨comma, .comma⟩ :: inside, close, tail, behind, ?_,
      .cons comma expression more, isTail, closesBehind⟩
    rw [equal, List.append_assoc, List.cons_append]

inductive Completes : Conversion → List Lexeme → Prop where
  | operand {written : Postfix} {pending : List Pending} {opened : Bool}
      {first rest : List Lexeme} :
      IsExpression first → Closes pending rest →
      Completes ⟨written, pending, true, opened⟩ (first ++ rest)
  | tail {written : Postfix} {pending : List Pending} {tail rest : List Lexeme} :
      IsTail tail → Closes pending rest → Completes ⟨written, pending, false, false⟩ (tail ++ rest)
  | noArgument {written : Postfix} {pending : List Pending} {name : String} {count column : Nat}
      {tail rest : List Lexeme} (close : Nat) : IsTail tail → Closes pending rest →
      Completes ⟨written, .call name count column :: pending, true, true⟩
        (⟨close, .closeParen⟩ :: (tail ++ rest))

/-- Whether a parenthesis that was just opened waits for an operand, in front of all else. -/
def Coherent (state : Conversion) : Prop :=
  state.justOpened = true →
    state.wantsOperand = true ∧ ∀ op behind, state.pending ≠ .operator op :: behind

theorem await_cases {state next : Conversion} {column : Nat} {token : Token} {entry : Pending}
    {opened : Bool} (h : state.await column token entry opened = .ok next) :
    state.wantsOperand = true ∧
      next = ⟨state.written, entry :: state.pending, true, opened⟩ := by
  unfold await at h
  split at h
  · next wants =>
    cases h
    exact ⟨wants, by rw [wants]⟩
  · cases h

theorem close_cases {state next : Conversion} {column : Nat}
    (h : state.close column = .ok next) : ∃ written rest, next = ⟨written, rest, false, false⟩ ∧
      ((∃ opened, (splitOperators state.pending).2 = .paren opened :: rest ∧
        state.wantsOperand = false) ∨
      (∃ name count opened, (splitOperators state.pending).2 = .call name count opened :: rest ∧
        (state.wantsOperand = true → state.justOpened = true))) := by
  unfold Conversion.close at h
  split at h
  · cases h
  · next ready =>
    simp only [Bool.and_eq_true, Bool.not_eq_true', not_and, Bool.not_eq_false] at ready
    dsimp only at h
    split at h
    · next opened rest waiting =>
      split at h
      · cases h
      · next closed =>
        cases h
        refine ⟨_, rest, rfl, .inl ⟨opened, waiting, ?_⟩⟩
        cases wants : state.wantsOperand with
        | false => rfl
        | true => exact absurd (ready wants) closed
    · next name count opened rest waiting =>
      cases h
      exact ⟨_, rest, rfl, .inr ⟨name, count, opened, waiting, ready⟩⟩
    · cases h

theorem comma_cases {state next : Conversion} {column : Nat}
    (h : state.comma column = .ok next) : state.wantsOperand = false ∧
      ∃ name count opened rest, (splitOperators state.pending).2 = .call name count opened :: rest ∧
        ∃ written, next = ⟨written, .call name (count + 1) opened :: rest, true, false⟩ := by
  unfold Conversion.comma at h
  split at h
  · cases h
  · next has =>
    dsimp only at h
    split at h
    · next name count opened rest waiting =>
      cases h
      exact ⟨Bool.eq_false_iff.mpr has, name, count, opened, rest, waiting, _, rfl⟩
    · cases h

theorem finish_cases {state : Conversion} {last : Nat} {code : Postfix}
    (h : state.finish last = .ok code) : state.wantsOperand = false ∧
      (splitOperators state.pending).2 = [] := by
  unfold finish at h
  split at h
  · cases h
  · next has =>
    refine ⟨Bool.eq_false_iff.mpr has, ?_⟩
    dsimp only at h
    split at h
    · cases h
    · cases h
    · next noParen noCall =>
      match waiting : (splitOperators state.pending).2 with
      | [] => rfl
      | .paren column :: rest => exact absurd waiting (noParen column rest)
      | .call name count column :: rest => exact absurd waiting (noCall name count column rest)
      | .operator op :: rest =>
        exact absurd waiting (splitOperators_ne_operator state.pending op rest)

theorem Completes.of_operand {written code : Postfix} {pending : List Pending} {opened : Bool}
    {operand lexemes : List Lexeme} (isOperand : IsOperand operand)
    (completes : Completes ⟨code, pending, false, false⟩ lexemes) :
    Completes ⟨written, pending, true, opened⟩ (operand ++ lexemes) := by
  cases completes with
  | tail isTail closes =>
    rw [← List.append_assoc]
    exact .operand ((IsExpression.operand isOperand).append isTail) closes

theorem Completes.of_unary {written code : Postfix} {pending : List Pending} {opened : Bool}
    {lexeme : Lexeme} {op : UnaryOperator} {lexemes : List Lexeme}
    (found : lexeme.token.prefixOperator? = some op)
    (completes : Completes ⟨code, .operator op.val :: pending, true, false⟩ lexemes) :
    Completes ⟨written, pending, true, opened⟩ (lexeme :: lexemes) := by
  cases completes with
  | operand expression closes =>
    cases closes with
    | operator closes => exact .operand (.prefixed found expression) closes

theorem Completes.of_binary {written code : Postfix} {pending behind : List Pending}
    {lexeme : Lexeme} {op : BinaryOperator} {lexemes : List Lexeme}
    (found : lexeme.token.binaryOperator? = some op)
    (completes : Completes ⟨code, .operator op.val :: behind, true, false⟩ lexemes)
    (releases : ∀ rest, Closes behind rest → Closes pending rest) :
    Completes ⟨written, pending, false, false⟩ (lexeme :: lexemes) := by
  cases completes with
  | operand expression closes =>
    cases closes with
    | operator closes =>
      exact .tail (.cons found expression) (releases _ closes)

theorem Completes.of_group {written code : Postfix} {pending : List Pending} {opened : Bool}
    {column : Nat} {lexemes : List Lexeme}
    (completes : Completes ⟨code, .paren column :: pending, true, true⟩ lexemes) :
    Completes ⟨written, pending, true, opened⟩ (⟨column, .openParen⟩ :: lexemes) := by
  cases completes with
  | operand expression closes =>
    cases closes with
    | group close isTail closes =>
      have whole := (IsExpression.operand (.group column close expression)).append isTail
      have completes : Completes ⟨written, pending, true, opened⟩ _ := .operand whole closes
      simpa using completes

theorem Completes.of_call {written code : Postfix} {pending : List Pending} {opened : Bool}
    {column paren : Nat} {name : String} {lexemes : List Lexeme}
    (completes : Completes ⟨code, .call name 0 column :: pending, true, true⟩ lexemes) :
    Completes ⟨written, pending, true, opened⟩
      (⟨column, .ident name⟩ :: ⟨paren, .openParen⟩ :: lexemes) := by
  cases completes with
  | operand expression closes =>
    obtain ⟨inside, close, tail, behind, equal, isArguments, isTail, closes⟩ :=
      closes.arguments expression
    rw [equal]
    have whole := (IsExpression.operand (.call column name paren close isArguments)).append isTail
    have completes : Completes ⟨written, pending, true, opened⟩ _ := .operand whole closes
    simpa using completes
  | noArgument close isTail closes =>
    have whole := IsExpression.operand (.emptyCall column name paren close)
    exact .operand (whole.append isTail) closes

theorem Coherent.justOpened {written : Postfix} {pending : List Pending} {opened : Bool}
    (coherent : Coherent ⟨written, pending, false, opened⟩) : opened = false := by
  cases opened with
  | true => exact absurd (coherent rfl).1 nofun
  | false => rfl

theorem splitOperators_of_not {pending : List Pending}
    (noOperator : ∀ op behind, pending ≠ .operator op :: behind) :
    splitOperators pending = ([], pending) := by
  fun_cases splitOperators pending with
  | case1 op behind operators after split => exact absurd rfl (noOperator op behind)
  | case2 => rfl

theorem Completes.of_close {state next : Conversion} {column : Nat} {lexemes : List Lexeme}
    (coherent : state.Coherent) (closed : state.close column = .ok next)
    (completes : next.Coherent → Completes next lexemes) :
    Completes state (⟨column, .closeParen⟩ :: lexemes) := by
  obtain ⟨code, rest, rfl, ends⟩ := close_cases closed
  obtain ⟨written, pending, wantsOperand, justOpened⟩ := state
  cases completes nofun with
  | tail isTail closes =>
    cases wantsOperand with
    | false =>
      obtain rfl := coherent.justOpened
      refine .tail .nil (.of_splitOperators ?_)
      rcases ends with ⟨opened, waiting, -⟩ | ⟨name, count, opened, waiting, -⟩
      · exact waiting ▸ .group column isTail closes
      · exact waiting ▸ .call column isTail closes
    | true =>
      rcases ends with ⟨opened, -, wants⟩ | ⟨name, count, opened, waiting, empty⟩
      · cases wants
      · obtain rfl : justOpened = true := empty rfl
        rw [splitOperators_of_not (coherent rfl).2] at waiting
        obtain rfl : pending = _ := waiting
        exact .noArgument column isTail closes

theorem Completes.of_comma {state next : Conversion} {column : Nat} {lexemes : List Lexeme}
    (coherent : state.Coherent) (separated : state.comma column = .ok next)
    (completes : next.Coherent → Completes next lexemes) :
    Completes state (⟨column, .comma⟩ :: lexemes) := by
  obtain ⟨has, name, count, opened, rest, waiting, code, rfl⟩ := comma_cases separated
  obtain ⟨written, pending, wantsOperand, justOpened⟩ := state
  obtain rfl : wantsOperand = false := has
  obtain rfl := coherent.justOpened
  cases completes nofun with
  | operand expression closes =>
    exact .tail .nil (.of_splitOperators (waiting ▸ .comma column expression closes))

/-- The pass comes to its end only over tokens that complete what was read. -/
theorem run_completes {state final : Conversion} {lexemes : List Lexeme} {last : Nat}
    {code : Postfix} (coherent : state.Coherent) (ran : state.run lexemes = .ok final)
    (finished : final.finish last = .ok code) : Completes state lexemes := by
  fun_induction run state lexemes with
  | case1 state =>
    cases ran
    obtain ⟨written, pending, wantsOperand, justOpened⟩ := final
    obtain ⟨has, alone⟩ := finish_cases finished
    obtain rfl : wantsOperand = false := has
    obtain rfl := coherent.justOpened
    exact .tail .nil (.of_splitOperators (alone ▸ .done))
  | case2 state column name opened rest ih =>
    obtain ⟨next, awaited, ran⟩ := bind_ok ran
    obtain ⟨wants, equal⟩ := await_cases awaited
    obtain ⟨written, pending, wantsOperand, justOpened⟩ := state
    obtain rfl : wantsOperand = true := wants
    subst equal
    exact .of_call (ih _ (fun _ => ⟨rfl, fun _ _ => nofun⟩) ran)
  | case3 state column token rest noCall ih =>
    obtain ⟨next, stepped, ran⟩ := bind_ok ran
    have completes := fun coherent => ih next coherent ran
    have cases := @step_cases state next ⟨column, token⟩ stepped
    obtain ⟨written, pending, wantsOperand, justOpened⟩ := state
    rcases cases with ⟨rfl, operand, code, rfl⟩ | ⟨rfl, rfl, rfl⟩ | ⟨rfl, op, found, rfl⟩ |
      ⟨rfl, op, found, code, rfl⟩ | ⟨rfl, closed⟩ | ⟨rfl, separated⟩
    · exact .of_operand operand (completes nofun)
    · exact .of_group (completes fun _ => ⟨rfl, fun _ _ => nofun⟩)
    · exact .of_unary found (completes nofun)
    · obtain rfl := coherent.justOpened
      exact .of_binary found (completes nofun) fun _ => .of_splitTighter
    · exact .of_close coherent closed completes
    · exact .of_comma coherent separated completes

end Conversion

theorem Postfix.isExpression_of_ofLexemes {lexemes : List Lexeme} {code : Postfix}
    (h : Postfix.ofLexemes lexemes = .ok code) : IsExpression lexemes := by
  obtain ⟨assembled, found, -⟩ := bind_ok h
  unfold Postfix.assemble at found
  split at found
  · cases found
  · obtain ⟨final, ran, finished⟩ := bind_ok found
    have coherent : Conversion.start.Coherent := fun opened => nomatch opened
    have completes := Conversion.run_completes coherent ran finished
    generalize begun : Conversion.start = state at completes
    cases completes with
    | operand expression closes =>
      cases begun
      cases closes with
      | done => simpa using expression
    | tail => cases begun
    | noArgument => cases begun

/-- The tokens that have code are the expressions, and the code is the code of the tree that the
parser finds. The last part says which operators the tree has in the last operand of another. -/
theorem Postfix.ofLexemes_eq_ok_iff (lexemes : List Lexeme) :
    ((∃ code, Postfix.ofLexemes lexemes = .ok code) ↔ IsExpression lexemes) ∧
      (∀ code, Postfix.ofLexemes lexemes = .ok code ↔
        ∃ tree, Expression.parse lexemes = some tree ∧ tree.code = code) ∧
      ∀ (op : Operator) (inner : BinaryOperator), op.floor ≤ inner.val.precedence ↔
        op = .not ∧ 3 < inner.val.precedence ∨ op.arity = 2 ∧
          (op.precedence < inner.val.precedence ∨ op = .power ∧ inner.val = .power) := by
  have reads : IsExpression lexemes → ∃ tree, Expression.parse lexemes = some tree ∧
      Postfix.ofLexemes lexemes = .ok tree.code := by
    intro expression
    obtain ⟨tree, found⟩ := expression.exists_parse
    exact ⟨tree, found, Postfix.ofLexemes_of_parse found⟩
  refine ⟨⟨?_, ?_⟩, fun code => ⟨?_, ?_⟩, Operator.floor_le_iff⟩
  · rintro ⟨code, h⟩
    exact Postfix.isExpression_of_ofLexemes h
  · intro expression
    obtain ⟨tree, -, converted⟩ := reads expression
    exact ⟨tree.code, converted⟩
  · intro h
    obtain ⟨tree, found, converted⟩ := reads (Postfix.isExpression_of_ofLexemes h)
    exact ⟨tree, found, Except.ok.inj (converted.symm.trans h)⟩
  · rintro ⟨tree, found, rfl⟩
    exact Postfix.ofLexemes_of_parse found

end EventScript
