import EventScript.Function.Builtin
import EventScript.Proofs.Expression.Calls
import EventScript.Proofs.Program.Refusals

/-!
# Where wrong calls are reported

A wrong call is reported on its line, at the first call of the same function in its expression. That
is another call if the function is called in order before.
-/

namespace EventScript

/-! ### Errors of the conversion -/

namespace Conversion

def Blameless {α : Type} (outcome : Except ExpressionError α) : Prop :=
  ∀ column cause, outcome = .error (.at column cause) → ∀ registry, ¬ cause.Blames registry

end Conversion

theorem GrammarError.not_blames_of_isOfTokens {cause : GrammarError}
    (ofTokens : cause.isOfTokens = true) (registry : Registry) : ¬ cause.Blames registry := by
  intro blames
  cases cause with
  | wrongArgumentCount => cases ofTokens
  | voidResult => cases ofTokens
  | _ => exact blames

namespace Postfix

theorem ofLexemes_blameless (lexemes : List Lexeme) : Conversion.Blameless (ofLexemes lexemes) := by
  intro column cause failed
  have nonempty : lexemes ≠ [] := by
    rintro rfl
    cases failed
  obtain ⟨_, _, same, ofTokens⟩ := ofLexemes_refuses nonempty _ failed
  cases same
  exact GrammarError.not_blames_of_isOfTokens ofTokens

/-! ### The first wrong call -/

/-- Whether a call in the code is not in order there, for the cause that the misuse gives. -/
def Faults (registry : Registry) (bare : Bool) (code : Postfix) (misuse : Misuse) : Prop :=
  ∃ front count back, code = front ++ .call misuse.name count :: back ∧
    ¬ (Instruction.call misuse.name count).Suits registry bare back ∧
    ((∃ arity, misuse.cause = .wrongArgumentCount misuse.name arity count) ∨
      misuse.cause = .voidResult misuse.name)

theorem Faults.cons {registry : Registry} {bare : Bool} {code : Postfix} {misuse : Misuse}
    (faults : Faults registry bare code misuse) (instruction : Instruction) :
    Faults registry bare (instruction :: code) misuse := by
  obtain ⟨front, count, back, rfl, fault⟩ := faults
  exact ⟨instruction :: front, count, back, rfl, fault⟩

theorem faults_of_misuse? {registry : Registry} {bare : Bool} {code : Postfix} {misuse : Misuse}
    (found : code.misuse? registry bare = some misuse) : Faults registry bare code misuse := by
  induction code with
  | nil => cases found
  | cons instruction code ih =>
    cases instruction with
    | push value => exact (ih found).cons _
    | load name => exact (ih found).cons _
    | operate op => exact (ih found).cons _
    | call name count =>
      rw [misuse?] at found
      split at found
      · exact (ih found).cons _
      · next function registered =>
        split at found
        · next wrong =>
          cases found
          refine ⟨[], count, code, rfl, fun suits => ?_, .inl ⟨_, rfl⟩⟩
          rw [(suits function registered).1] at wrong
          cases wrong
        · split at found
          · next used =>
            cases found
            refine ⟨[], count, code, rfl, fun suits => ?_, .inr rfl⟩
            rw [Bool.and_eq_true, Bool.not_eq_true'] at used
            obtain ⟨alone, last⟩ := (suits function registered).2 used.1
            rw [alone, last] at used
            cases used.2
          · exact (ih found).cons _

theorem exists_site {lexemes : List Lexeme} {code front back : Postfix} {name : String} {count : Nat}
    (h : ofLexemes lexemes = .ok code) (split : code = front ++ .call name count :: back) :
    ∃ site ∈ CallSite.sites lexemes, site.signature = (name, count) := by
  have called : (name, count) ∈ code.calls :=
    List.mem_filterMap.mpr ⟨.call name count, by simp [split], rfl⟩
  exact List.mem_map.mp ((calls_perm_sites h).mem_iff.mp called)

end Postfix

/-! ### Sources -/

/-- If a source is refused for a wrong call, then the line named has an expression with such a call,
and the column is that of the first call of the same function in it. That is the wrong call itself
unless the expression calls the function elsewhere too. -/
theorem compile_error_names_call {registry : Registry} {source : String} {line column : Nat}
    {cause : GrammarError}
    (failed : compile (some registry) source = .error (.grammar line column cause))
    (blames : cause.Blames registry) :
    ∃ before text after tokens chunk bare expression code,
      Text.lines source.toList = before ++ text :: after ∧ line = before.length + 1 ∧
      (Lexer.ofText text).tokens = .ok tokens ∧ chunk ∈ Chunk.split tokens ∧
      chunk.Holds bare expression ∧ Postfix.ofLexemes expression = .ok code ∧
      ∃ front back wrong named,
        code = front ++ .call wrong.name wrong.count :: back ∧
        ¬ (Instruction.call wrong.name wrong.count).Suits registry bare back ∧
        ((∃ arity, cause = .wrongArgumentCount wrong.name arity wrong.count) ∨
          cause = .voidResult wrong.name) ∧
        wrong ∈ CallSite.sites expression ∧
        (CallSite.sites expression).find? (fun site => site.name == wrong.name) = some named ∧
        column = named.column ∧
        ((∀ site ∈ CallSite.sites expression, site.name = wrong.name → site = wrong) →
          named = wrong) := by
  rcases bind_error failed with stopped | ⟨assembler, read, unfinished⟩
  · obtain ⟨before, text, after, assembler, same, -, stopped⟩ := Chunk.foldLines_error stopped
    rcases Chunk.foldLine_error stopped with ⟨_, _, -, ⟨⟩⟩ | ⟨tokens, chunk, _, lexed, member, refused⟩
    rcases Assembler.read_error refused with ⟨_, _, ⟨⟩, -, other⟩ | ⟨bare, expression, holds, refused⟩
    · exact absurd blames (other registry)
    rcases Postfix.checked_error refused with ⟨_ | ⟨column, cause⟩, conversion, same⟩ |
      ⟨known, code, misuse, same, converted, found, reported⟩
    · cases same
    · cases same
      exact absurd blames (Postfix.ofLexemes_blameless expression column _ conversion registry)
    · cases same
      cases reported
      obtain ⟨front, count, back, split, fault, reason⟩ := Postfix.faults_of_misuse? found
      obtain ⟨⟨place, name, count⟩, inside, ⟨⟩⟩ := Postfix.exists_site converted split
      refine ⟨before, text, after, tokens, chunk, bare, expression, code, same, Nat.add_comm 1 _,
        lexed, member, holds, converted, front, back, ⟨place, misuse.name, count⟩, ?_⟩
      cases first : (CallSite.sites expression).find? fun site => site.name == misuse.name with
      | none =>
        have absent := List.find?_eq_none.mp first _ inside
        exact absurd (beq_self_eq_true misuse.name) absent
      | some named =>
        refine ⟨named, split, fault, reason, inside, rfl, ?_, fun once => ?_⟩
        · rw [callColumn, CallSite.callColumn?_eq, first]
          rfl
        · exact once named (List.mem_of_find?_eq_some first) (by simpa using List.find?_some first)
  · unfold Assembler.finish at unfinished
    split at unfinished
    · cases unfinished
    · cases unfinished
      cases blames

theorem compile_error_names_call_abs :
    let source := "abs(x) + max(abs(y, z), 0)"
    ∃ line column cause, compile (some Builtin.registry) source = .error (.grammar line column cause) ∧
      cause.Blames Builtin.registry ∧
      ∃ before text after tokens chunk bare expression wrong named,
        Text.lines source.toList = before ++ text :: after ∧ line = before.length + 1 ∧
        (Lexer.ofText text).tokens = .ok tokens ∧ chunk ∈ Chunk.split tokens ∧
        chunk.Holds bare expression ∧
        wrong ∈ CallSite.sites expression ∧
        (CallSite.sites expression).find? (fun site => site.name == wrong.name) = some named ∧
        column = named.column := by
  intro source
  have failed : compile (some Builtin.registry) source =
      .error (.grammar 1 1 (.wrongArgumentCount "abs" (.exactly 1) 2)) :=
    eq_error_of_error? (by decide +kernel)
  have blames : (GrammarError.wrongArgumentCount "abs" (.exactly 1) 2).Blames Builtin.registry := by
    have known : (Builtin.registry.get? "abs").isSome = true := by decide +kernel
    obtain ⟨function, found⟩ := Option.isSome_iff_exists.mp known
    have arity : (Builtin.registry.get? "abs").map Function.arity = some (.exactly 1) := by
      decide +kernel
    rw [found] at arity
    exact ⟨function, found, Option.some.inj arity, rfl⟩
  obtain ⟨before, text, after, tokens, chunk, bare, expression, code, lines, line, lexed, member,
    holds, -, -, -, wrong, named, -, -, -, inside, first, column, -⟩ :=
    compile_error_names_call failed blames
  exact ⟨_, _, _, failed, blames, before, text, after, tokens, chunk, bare, expression, wrong, named,
    lines, line, lexed, member, holds, inside, first, column⟩

/-- The first call is in order, and is named instead of the second. -/
theorem earlier_call_named_abs :
    let source := "abs(x) + abs(x, y)"
    compile (some Builtin.registry) source =
        .error (.grammar 1 1 (.wrongArgumentCount "abs" (.exactly 1) 2)) ∧
      ∃ tokens, (Lexer.ofText source.toList).tokens = .ok tokens ∧
        CallSite.sites tokens = [⟨1, "abs", 1⟩, ⟨10, "abs", 2⟩] ∧
        (Arity.exactly 1).accepts 1 = true ∧ (Arity.exactly 1).accepts 2 = false := by
  refine ⟨eq_error_of_error? (by decide +kernel), ?_⟩
  open Token in
  let tokens : List Lexeme := [⟨1, ident "abs"⟩, ⟨4, openParen⟩, ⟨5, ident "x"⟩, ⟨6, closeParen⟩,
    ⟨8, plus⟩, ⟨10, ident "abs"⟩, ⟨13, openParen⟩, ⟨14, ident "x"⟩, ⟨15, comma⟩, ⟨17, ident "y"⟩,
    ⟨18, closeParen⟩]
  exact ⟨tokens, eq_ok_of_toOption (by decide +kernel), by decide, rfl, rfl⟩

end EventScript
