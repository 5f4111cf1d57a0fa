import EventScript.Postfix.OfTokens
import EventScript.Proofs.Outcome

/-!
# Columns of expressions

What tokens spell does not depend on their columns, which turn up in errors only: there every one of
them is the column of a token.
-/

namespace EventScript

/-! ### Other columns -/

def Lexeme.relabel (f : Nat → Nat) (lexeme : Lexeme) : Lexeme := ⟨f lexeme.column, lexeme.token⟩

def Pending.relabel (f : Nat → Nat) : Pending → Pending
  | operator op => operator op
  | paren column => paren (f column)
  | call name count column => call name count (f column)

def Conversion.relabel (f : Nat → Nat) (state : Conversion) : Conversion :=
  { state with pending := state.pending.map (Pending.relabel f) }

def ExpressionError.relabel (f : Nat → Nat) : ExpressionError → ExpressionError
  | empty => empty
  | «at» column cause => «at» (f column) cause

namespace Conversion

variable (f : Nat → Nat)

def relabelled : Except ExpressionError Conversion → Except ExpressionError Conversion
  | .ok state => .ok (state.relabel f)
  | .error error => .error (error.relabel f)

theorem relabelled_bind {outcome : Except ExpressionError Conversion}
    {next next' : Conversion → Except ExpressionError Conversion}
    (continued : ∀ state, next' (state.relabel f) = relabelled f (next state)) :
    (relabelled f outcome >>= next') = relabelled f (outcome >>= next) := by
  cases outcome with
  | ok state => exact continued state
  | error error => rfl

theorem splitOperators_relabel (pending : List Pending) :
    splitOperators (pending.map (Pending.relabel f)) =
      ((splitOperators pending).1, (splitOperators pending).2.map (Pending.relabel f)) := by
  induction pending with
  | nil => rfl
  | cons entry pending ih =>
    cases entry with
    | operator op =>
      rw [List.map_cons, Pending.relabel, splitOperators, splitOperators, ih]
    | paren column => rfl
    | call name count column => rfl

theorem splitTighter_relabel (incoming : Operator) (pending : List Pending) :
    splitTighter incoming (pending.map (Pending.relabel f)) =
      ((splitTighter incoming pending).1,
        (splitTighter incoming pending).2.map (Pending.relabel f)) := by
  induction pending with
  | nil => rfl
  | cons entry pending ih =>
    cases entry with
    | operator op =>
      rw [List.map_cons, Pending.relabel, splitTighter, splitTighter, ih]
      split <;> rfl
    | paren column => rfl
    | call name count column => rfl

/-! ### Steps in other columns -/

variable (state : Conversion) (column : Nat)

theorem operand_relabel (token : Token) (instruction : Instruction) :
    (state.relabel f).operand (f column) token instruction =
      relabelled f (state.operand column token instruction) := by
  unfold operand
  cases wants : state.wantsOperand <;> simp only [relabel, wants] <;> rfl

theorem await_relabel (token : Token) (entry : Pending) (opened : Bool) :
    (state.relabel f).await (f column) token (entry.relabel f) opened =
      relabelled f (state.await column token entry opened) := by
  unfold await
  cases wants : state.wantsOperand <;> simp only [relabel, wants] <;> rfl

theorem binary_relabel (incoming : Operator) :
    (state.relabel f).binary (f column) incoming =
      relabelled f (state.binary column incoming) := by
  unfold binary
  cases wants : state.wantsOperand <;>
    simp only [relabel, wants, splitTighter_relabel] <;> rfl

theorem sign_relabel (asSign between : Operator) :
    (state.relabel f).sign (f column) asSign between =
      relabelled f (state.sign column asSign between) := by
  obtain ⟨written, pending, wants, opened⟩ := state
  cases wants with
  | false => exact binary_relabel f ⟨written, pending, false, opened⟩ column between
  | true => rfl

theorem close_relabel :
    (state.relabel f).close (f column) = relabelled f (state.close column) := by
  obtain ⟨written, pending, wants, opened⟩ := state
  unfold close
  simp only [relabel, splitOperators_relabel]
  split
  · rfl
  · rcases (splitOperators pending).2 with _ | ⟨_ | _ | _, rest⟩
    · rfl
    · rfl
    · cases opened <;> rfl
    · rfl

theorem comma_relabel :
    (state.relabel f).comma (f column) = relabelled f (state.comma column) := by
  obtain ⟨written, pending, wants, opened⟩ := state
  unfold comma
  simp only [relabel, splitOperators_relabel]
  split
  · rfl
  · rcases (splitOperators pending).2 with _ | ⟨_ | _ | _, rest⟩ <;> rfl

theorem step_relabel (token : Token) :
    (state.relabel f).step (f column) token = relabelled f (state.step column token) := by
  cases token
  case number | text | trueKeyword | falseKeyword | ident => exact operand_relabel f state column _ _
  case openParen => exact await_relabel f state column .openParen (.paren column) true
  case notKeyword => exact await_relabel f state column .notKeyword (.operator .not) false
  case closeParen => exact close_relabel f state column
  case comma => exact comma_relabel f state column
  case plus | minus => exact sign_relabel f state column _ _
  case assign | semicolon | openBrace | closeBrace | ifKeyword | elseifKeyword | elseKeyword |
      globalKeyword => rfl
  all_goals exact binary_relabel f state column _

theorem run_relabel (lexemes : List Lexeme) :
    (state.relabel f).run (lexemes.map (Lexeme.relabel f)) = relabelled f (state.run lexemes) := by
  induction state, lexemes using run.induct with
  | case1 state => rfl
  | case2 state column name opened rest ih =>
    rw [List.map_cons, List.map_cons, Lexeme.relabel, Lexeme.relabel, run, run]
    change await (state.relabel f) (f column) _ ((Pending.call name 0 column).relabel f) true >>= _ = _
    rw [await_relabel]
    exact relabelled_bind f ih
  | case3 state column token rest noCall ih =>
    rw [List.map_cons, Lexeme.relabel, run, run]
    · rw [step_relabel]
      exact relabelled_bind f ih
    · exact noCall
    · intro name opened behind same
      obtain ⟨⟨_, _⟩, _, rfl, first, -⟩ := List.map_eq_cons_iff.mp same
      cases first
      exact noCall name _ _ rfl

theorem finish_relabel (last : Nat) :
    (state.relabel f).finish (f last) =
      (state.finish last).mapError (ExpressionError.relabel f) := by
  obtain ⟨written, pending, wants, opened⟩ := state
  unfold finish
  simp only [relabel, splitOperators_relabel]
  split
  · rfl
  · rcases (splitOperators pending).2 with _ | ⟨_ | _ | _, rest⟩ <;> rfl

end Conversion

def GrammarError.isMisplacement : GrammarError → Bool
  | unexpected _ | missingOperator _ | missingLeftOperand _ | endsWithoutOperand
  | missingOperandBeforeClose | unmatchedClose | unclosedParen | emptyParens | missingArgument
  | commaOutsideCall => true
  | _ => false

def GrammarError.isOfTokens : GrammarError → Bool
  | unexpected _ | missingOperator _ | missingLeftOperand _ | endsWithoutOperand
  | missingOperandBeforeClose | unmatchedClose | unclosedParen | emptyParens | missingArgument
  | commaOutsideCall | valuesLeft _ | underflow _ => true
  | _ => false

theorem GrammarError.isOfTokens_of_isMisplacement {cause : GrammarError}
    (misplaced : cause.isMisplacement = true) : cause.isOfTokens = true := by
  cases cause <;> cases misplaced <;> rfl

namespace Conversion

/-! ### Errors of a conversion -/

section Refuses

variable {causes : GrammarError → Bool} {α β : Type}

/-- Whether every error of the outcome is that of a place, for one of the causes. -/
def Refuses (causes : GrammarError → Bool) (outcome : Except ExpressionError α) : Prop :=
  ∀ error, outcome = .error error → ∃ column cause, error = .at column cause ∧ causes cause = true

theorem refuses_ok (value : α) : Refuses causes (.ok value) := nofun

theorem refuses_error (column : Nat) {cause : GrammarError} (caused : causes cause = true) :
    Refuses causes (.error (.at column cause) : Except ExpressionError α) := by
  rintro _ ⟨⟩
  exact ⟨column, cause, rfl, caused⟩

theorem Refuses.imp {more : GrammarError → Bool} {outcome : Except ExpressionError α}
    (refuses : Refuses causes outcome)
    (implied : ∀ {cause}, causes cause = true → more cause = true) : Refuses more outcome := by
  intro error failed
  obtain ⟨column, cause, placed, caused⟩ := refuses error failed
  exact ⟨column, cause, placed, implied caused⟩

theorem Refuses.bind {outcome : Except ExpressionError α} {next : α → Except ExpressionError β}
    (first : Refuses causes outcome) (second : ∀ value, Refuses causes (next value)) :
    Refuses causes (outcome >>= next) := by
  intro error failed
  rcases bind_error failed with failed | ⟨value, -, failed⟩
  · exact first error failed
  · exact second value error failed

end Refuses

variable (state : Conversion) (column : Nat)

theorem operand_refuses (token : Token) (instruction : Instruction) :
    Refuses GrammarError.isMisplacement (state.operand column token instruction) := by
  unfold operand
  split
  · exact refuses_ok _
  · exact refuses_error column rfl

theorem await_refuses (token : Token) (entry : Pending) (opened : Bool) :
    Refuses GrammarError.isMisplacement (state.await column token entry opened) := by
  unfold await
  split
  · exact refuses_ok _
  · exact refuses_error column rfl

theorem binary_refuses (incoming : Operator) :
    Refuses GrammarError.isMisplacement (state.binary column incoming) := by
  unfold binary
  split
  · exact refuses_error column rfl
  · exact refuses_ok _

theorem sign_refuses (asSign between : Operator) :
    Refuses GrammarError.isMisplacement (state.sign column asSign between) := by
  unfold sign
  split
  · exact refuses_ok _
  · exact binary_refuses state column between

theorem close_refuses : Refuses GrammarError.isMisplacement (state.close column) := by
  unfold close
  split
  · exact refuses_error column rfl
  · dsimp only
    split
    · split
      · exact refuses_error column rfl
      · exact refuses_ok _
    · exact refuses_ok _
    · exact refuses_error column rfl

theorem comma_refuses : Refuses GrammarError.isMisplacement (state.comma column) := by
  unfold comma
  split
  · exact refuses_error column rfl
  · dsimp only
    split
    · exact refuses_ok _
    · exact refuses_error column rfl

theorem step_refuses (token : Token) :
    Refuses GrammarError.isMisplacement (state.step column token) := by
  cases token
  case number | text | trueKeyword | falseKeyword | ident => exact operand_refuses state column _ _
  case openParen | notKeyword => exact await_refuses state column _ _ _
  case closeParen => exact close_refuses state column
  case comma => exact comma_refuses state column
  case plus | minus => exact sign_refuses state column _ _
  case assign | semicolon | openBrace | closeBrace | ifKeyword | elseifKeyword | elseKeyword |
      globalKeyword => exact refuses_error column rfl
  all_goals exact binary_refuses state column _

theorem run_refuses (lexemes : List Lexeme) :
    Refuses GrammarError.isMisplacement (state.run lexemes) := by
  induction state, lexemes using run.induct with
  | case1 state => exact refuses_ok _
  | case2 state column name opened rest ih => exact (await_refuses state column _ _ _).bind ih
  | case3 state column token rest noCall ih =>
    rw [run]
    · exact (step_refuses state column token).bind ih
    · exact noCall

theorem finish_refuses (last : Nat) : Refuses GrammarError.isMisplacement (state.finish last) := by
  unfold finish
  split
  · exact refuses_error last rfl
  · dsimp only
    split
    · exact refuses_error _ rfl
    · exact refuses_error _ rfl
    · exact refuses_ok _

end Conversion

namespace Postfix

theorem lastColumn_relabel (f : Nat → Nat) {lexemes : List Lexeme} (nonempty : lexemes ≠ []) :
    lastColumn (lexemes.map (Lexeme.relabel f)) = f (lastColumn lexemes) := by
  obtain ⟨last, found⟩ := Option.ne_none_iff_exists'.mp (mt List.getLast?_eq_none_iff.mp nonempty)
  simp [lastColumn, found, Lexeme.relabel]

theorem balanced_relabel (f : Nat → Nat) (column : Nat) (code : Postfix) :
    balanced (f column) code = (balanced column code).mapError (ExpressionError.relabel f) := by
  unfold balanced
  split <;> rfl

/-- In other columns the same tokens have the same code, or the same error in its other column. -/
theorem ofLexemes_relabel (f : Nat → Nat) (lexemes : List Lexeme) :
    ofLexemes (lexemes.map (Lexeme.relabel f)) =
      (ofLexemes lexemes).mapError (ExpressionError.relabel f) := by
  cases lexemes with
  | nil => rfl
  | cons lexeme rest =>
    have last := lastColumn_relabel f (List.cons_ne_nil lexeme rest)
    have ran := Conversion.run_relabel f .start (lexeme :: rest)
    change Conversion.run .start _ = _ at ran
    unfold ofLexemes assemble
    rw [last, ran]
    cases Conversion.run .start (lexeme :: rest) with
    | error error => rfl
    | ok final =>
      have finished := Conversion.finish_relabel f final (lastColumn (lexeme :: rest))
      change (Conversion.finish (final.relabel f) _ >>= balanced _) =
        Except.mapError _ (final.finish _ >>= balanced _)
      rw [finished]
      cases final.finish (lastColumn (lexeme :: rest)) with
      | error error => rfl
      | ok code => exact balanced_relabel f _ code

/-- An error names the column of a token. -/
theorem column_mem_of_ofLexemes {lexemes : List Lexeme} {column : Nat} {cause : GrammarError}
    (failed : ofLexemes lexemes = .error (.at column cause)) :
    column ∈ lexemes.map Lexeme.column := by
  -- A column that no token has could be any other one as well.
  let f : Nat → Nat := fun other => if other ∈ lexemes.map Lexeme.column then other else other + 1
  have same : lexemes.map (Lexeme.relabel f) = lexemes := by
    refine (List.map_congr_left fun lexeme member => ?_).trans (List.map_id lexemes)
    have kept : f lexeme.column = lexeme.column := if_pos (List.mem_map_of_mem member)
    rw [Lexeme.relabel, kept]
    rfl
  have moved := ofLexemes_relabel f lexemes
  rw [same, failed] at moved
  refine Decidable.byContradiction fun unknown => ?_
  have other : f column = column + 1 := if_neg unknown
  have placed : ExpressionError.at column cause = .at (f column) cause := Except.error.inj moved
  have fixed : column = f column := (ExpressionError.at.inj placed).1
  omega

/-! ### Places of errors -/

theorem assemble_refuses {lexemes : List Lexeme} (nonempty : lexemes ≠ []) :
    Conversion.Refuses GrammarError.isMisplacement (assemble lexemes) := by
  unfold assemble
  rw [if_neg (mt List.isEmpty_iff.mp nonempty)]
  exact (Conversion.run_refuses .start lexemes).bind fun final => Conversion.finish_refuses final _

theorem balanced_refuses (column : Nat) (code : Postfix) :
    Conversion.Refuses GrammarError.isOfTokens (balanced column code) := by
  unfold balanced
  split
  · exact Conversion.refuses_ok _
  · exact Conversion.refuses_error column rfl
  · exact Conversion.refuses_error column rfl

theorem ofLexemes_refuses {lexemes : List Lexeme} (nonempty : lexemes ≠ []) :
    Conversion.Refuses GrammarError.isOfTokens (ofLexemes lexemes) :=
  ((assemble_refuses nonempty).imp GrammarError.isOfTokens_of_isMisplacement).bind fun code =>
    balanced_refuses _ code

theorem ofLexemes_eq_empty_iff (lexemes : List Lexeme) :
    ofLexemes lexemes = .error .empty ↔ lexemes = [] := by
  constructor
  · intro failed
    refine Decidable.byContradiction fun nonempty => ?_
    obtain ⟨column, cause, same, -⟩ := ofLexemes_refuses nonempty .empty failed
    cases same
  · rintro rfl
    rfl

def columnAt (lexemes : List Lexeme) (place : Nat) : Nat :=
  (lexemes[place - 1]?.map Lexeme.column).getD 1

/-- The lexemes with their places in the stead of their columns. -/
def numbered (tokens : List Token) : List Lexeme :=
  tokens.mapIdx fun index token => ⟨index + 1, token⟩

theorem map_relabel_numbered (lexemes : List Lexeme) :
    (numbered (lexemes.map Lexeme.token)).map (Lexeme.relabel (columnAt lexemes)) = lexemes := by
  refine List.ext_getElem? fun index => ?_
  cases found : lexemes[index]? with
  | none => simp [numbered, found]
  | some lexeme => simp [numbered, found, Lexeme.relabel, columnAt]

theorem ofLexemes_eq_ofTokens (lexemes : List Lexeme) :
    ofLexemes lexemes =
      (ofTokens (lexemes.map Lexeme.token)).mapError
        (ExpressionError.relabel (columnAt lexemes)) := by
  have relabelled := ofLexemes_relabel (columnAt lexemes) (numbered (lexemes.map Lexeme.token))
  rw [map_relabel_numbered] at relabelled
  exact relabelled

theorem place_of_ofTokens {tokens : List Token} {place : Nat} {cause : GrammarError}
    (failed : ofTokens tokens = .error (.at place cause)) : 1 ≤ place ∧ place ≤ tokens.length := by
  obtain ⟨lexeme, member, rfl⟩ := List.mem_map.mp (column_mem_of_ofLexemes failed)
  obtain ⟨index, inside, rfl⟩ := List.mem_mapIdx.mp member
  exact ⟨Nat.succ_pos index, inside⟩

/-- Tokens with columns give the same code as the tokens alone. Where the tokens alone are refused at
a place, they are refused for the same reason at the column of the token in that place. -/
theorem ofLexemes_follows_ofTokens (lexemes : List Lexeme) :
    let tokens := lexemes.map Lexeme.token
    (∀ code, ofLexemes lexemes = .ok code ↔ ofTokens tokens = .ok code) ∧
      (ofLexemes lexemes = .error .empty ↔ lexemes = []) ∧
      (ofTokens tokens = .error .empty ↔ lexemes = []) ∧
      ∀ place cause, ofTokens tokens = .error (.at place cause) →
        1 ≤ place ∧ place ≤ lexemes.length ∧
          ∃ lexeme, lexemes[place - 1]? = some lexeme ∧
            ofLexemes lexemes = .error (.at lexeme.column cause) := by
  intro tokens
  have same := ofLexemes_eq_ofTokens lexemes
  refine ⟨?_, ofLexemes_eq_empty_iff lexemes, ?_, ?_⟩
  · intro code
    rw [same]
    cases ofTokens tokens with
    | ok other => exact Iff.rfl
    | error error => exact iff_of_false nofun nofun
  · refine (ofLexemes_eq_empty_iff _).trans ?_
    simp [tokens, List.mapIdx_eq_nil_iff]
  · intro place cause failed
    obtain ⟨first, last⟩ := place_of_ofTokens failed
    rw [List.length_map] at last
    have found : lexemes[place - 1]? = some lexemes[place - 1] :=
      List.getElem?_eq_getElem (by omega)
    refine ⟨first, last, lexemes[place - 1], found, ?_⟩
    have there : columnAt lexemes place = lexemes[place - 1].column := by
      rw [columnAt, found]
      rfl
    rw [same, failed, ← there]
    rfl

end Postfix

end EventScript
