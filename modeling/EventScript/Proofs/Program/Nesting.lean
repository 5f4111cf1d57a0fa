import EventScript.Proofs.Program.Grammar
import EventScript.Proofs.Program.Joining

/-!
# Nesting

Which chunks an outline takes, and how deep it is nested then. All that counts is how many clauses
are open, which of them another clause may follow, and whether one may follow now.
-/

namespace EventScript

/-! ### Tokens of expressions -/

/-- Whether the token belongs to no expression. -/
def Token.isStructural : Token → Bool
  | assign | semicolon | openBrace | closeBrace | ifKeyword | elseifKeyword | elseKeyword
  | globalKeyword => true
  | _ => false

theorem Conversion.not_structural_of_step {state next : Conversion} {column : Nat} {token : Token}
    (h : state.step column token = .ok next) : token.isStructural = false := by
  cases token <;> first | rfl | cases h

theorem Conversion.not_structural_of_run {state final : Conversion} {tokens : List Lexeme}
    (h : state.run tokens = .ok final) :
    ∀ lexeme ∈ tokens, lexeme.token.isStructural = false := by
  induction state, tokens using run.induct with
  | case1 => simp
  | case2 state column name opened rest ih =>
    obtain ⟨next, -, h⟩ := bind_ok h
    intro lexeme member
    simp only [List.mem_cons] at member
    rcases member with rfl | rfl | member
    · rfl
    · rfl
    · exact ih next h lexeme member
  | case3 state column token rest noCall ih =>
    rw [run] at h
    · obtain ⟨next, stepped, h⟩ := bind_ok h
      intro lexeme member
      rcases List.mem_cons.mp member with rfl | member
      · exact not_structural_of_step stepped
      · exact ih next h lexeme member
    · exact noCall

theorem Converts.not_structural {tokens : List Lexeme} (converts : Converts tokens) :
    tokens ≠ [] ∧ ∀ lexeme ∈ tokens, lexeme.token.isStructural = false := by
  obtain ⟨code, h⟩ := converts
  obtain ⟨assembled, h, -⟩ := bind_ok h
  unfold Postfix.assemble at h
  split at h
  · cases h
  · next nonempty =>
    obtain ⟨final, ran, -⟩ := bind_ok h
    refine ⟨?_, Conversion.not_structural_of_run ran⟩
    rintro rfl
    exact nonempty rfl

theorem Token.isStructural_of_isSeparator {token : Token} (separator : token.isSeparator = true) :
    token.isStructural = true := by
  cases token <;> first | rfl | cases separator

theorem Converts.not_separator {tokens : List Lexeme} (converts : Converts tokens) :
    ∀ lexeme ∈ tokens, lexeme.token.isSeparator = false := by
  intro lexeme member
  have plain := converts.not_structural.2 lexeme member
  exact Bool.eq_false_iff.mpr fun separator =>
    Bool.false_ne_true (plain ▸ Token.isStructural_of_isSeparator separator)

/-- Of the tokens that belong to no expression, statements have those of assignments. -/
theorem IsStatement.structural {tokens : List Lexeme} (statement : IsStatement tokens)
    {lexeme : Lexeme} (member : lexeme ∈ tokens) (structural : lexeme.token.isStructural = true) :
    lexeme.token = .assign ∨ lexeme.token = .globalKeyword := by
  have inside {value : List Lexeme} (converts : Converts value) (member : lexeme ∈ value) : False :=
    Bool.false_ne_true (converts.not_structural.2 lexeme member ▸ structural)
  cases statement with
  | expression converts => exact (inside converts member).elim
  | assignment column target sign converts =>
    simp only [List.mem_cons] at member
    rcases member with rfl | rfl | member
    · cases structural
    · exact .inl rfl
    · exact (inside converts member).elim
  | globalAssignment keyword column target sign converts =>
    simp only [List.mem_cons] at member
    rcases member with rfl | rfl | rfl | member
    · exact .inr rfl
    · cases structural
    · exact .inl rfl
    · exact (inside converts member).elim

theorem IsStatement.not_separator {tokens : List Lexeme} (statement : IsStatement tokens) :
    ∀ lexeme ∈ tokens, lexeme.token.isSeparator = false := by
  intro lexeme member
  refine Bool.eq_false_iff.mpr fun separator => ?_
  have structural := Token.isStructural_of_isSeparator separator
  rcases statement.structural member structural with same | same
  · rw [same] at separator
    cases separator
  · rw [same] at separator
    cases separator

/-! ### Statements and headers -/

namespace Chunk

theorem checked_none_iff {line : Nat} {bare : Bool} {tokens : List Lexeme} {code : Postfix} :
    Postfix.checked none line bare tokens = .ok code ↔ Postfix.ofLexemes tokens = .ok code := by
  rw [Postfix.checked_eq_ok]
  simp

theorem isStatement_of_step {line : Nat} {tokens : List Lexeme} {action : Step}
    (h : step none line tokens = .ok action) : IsStatement tokens := by
  unfold step at h
  split at h
  · obtain ⟨code, checked, -⟩ := map_ok h
    exact .assignment _ _ _ ⟨code, checked_none_iff.mp checked⟩
  · obtain ⟨code, checked, -⟩ := map_ok h
    exact .globalAssignment _ _ _ _ ⟨code, checked_none_iff.mp checked⟩
  · cases h
  · obtain ⟨code, checked, -⟩ := map_ok h
    exact .expression ⟨code, checked_none_iff.mp checked⟩

/-- Tokens of an expression are no assignment. -/
theorem step_of_converts {tokens : List Lexeme} (converts : Converts tokens) (line : Nat) :
    step none line tokens = (Postfix.checked none line true tokens).map .evaluate := by
  have plain := converts.not_structural.2
  unfold step
  split
  · next column target sign value =>
    have assign := plain ⟨sign, .assign⟩ (List.mem_cons_of_mem _ List.mem_cons_self)
    cases assign
  · next column _ _ _ value =>
    have keyword := plain ⟨column, .globalKeyword⟩ List.mem_cons_self
    cases keyword
  · next column value _ =>
    have keyword := plain ⟨column, .globalKeyword⟩ List.mem_cons_self
    cases keyword
  · rfl

theorem exists_step {tokens : List Lexeme} (statement : IsStatement tokens) (line : Nat) :
    ∃ action, step none line tokens = .ok action := by
  cases statement with
  | expression converts =>
    obtain ⟨code, h⟩ := converts
    rw [step_of_converts ⟨code, h⟩, checked_none_iff.mpr h]
    exact ⟨_, rfl⟩
  | assignment column target sign converts =>
    obtain ⟨code, h⟩ := converts
    rw [step, checked_none_iff.mpr h]
    exact ⟨_, rfl⟩
  | globalAssignment keyword column target sign converts =>
    obtain ⟨code, h⟩ := converts
    rw [step, checked_none_iff.mpr h]
    exact ⟨_, rfl⟩

theorem converts_of_condition {line column : Nat} {keyword : Token} {header : List Lexeme}
    {code : Postfix} (h : condition none line column keyword header = .ok code) :
    Converts header := by
  unfold condition at h
  split at h
  · cases h
  · exact ⟨code, checked_none_iff.mp h⟩

theorem exists_condition {header : List Lexeme} (converts : Converts header)
    (line column : Nat) (keyword : Token) :
    ∃ code, condition none line column keyword header = .ok code := by
  have nonempty := converts.not_structural.1
  obtain ⟨code, h⟩ := converts
  refine ⟨code, ?_⟩
  rw [condition, if_neg (by simpa using nonempty)]
  exact checked_none_iff.mpr h

theorem form_of_isStatement {tokens : List Lexeme} (statement : IsStatement tokens)
    (terminator : Option Lexeme) : form ⟨tokens, terminator⟩ = .statement tokens := by
  cases statement with
  | expression converts =>
    obtain ⟨nonempty, plain⟩ := converts.not_structural
    unfold form
    dsimp only
    split
    · exact absurd rfl nonempty
    · have keyword := plain ⟨_, .ifKeyword⟩ List.mem_cons_self
      cases keyword
    · have keyword := plain ⟨_, .elseifKeyword⟩ List.mem_cons_self
      cases keyword
    · have keyword := plain ⟨_, .elseKeyword⟩ List.mem_cons_self
      cases keyword
    · rfl
  | assignment => rfl
  | globalAssignment => rfl

def ending (chunk : Chunk) : Symbol :=
  match chunk.terminator with
  | some lexeme => .token lexeme
  | none => .lineEnd

def symbols (chunk : Chunk) : List Symbol := spelled chunk.tokens ++ [chunk.ending]

theorem endsIn_openBrace {chunk : Chunk} (h : chunk.endsIn .openBrace = true) :
    ∃ brace, chunk.terminator = some ⟨brace, .openBrace⟩ := by
  obtain ⟨⟨brace, token⟩, closes, same⟩ := (Option.any_eq_true _ _).mp h
  obtain rfl : token = .openBrace := eq_of_beq same
  exact ⟨brace, closes⟩

theorem terminator_of_requireBrace {chunk : Chunk} {line column : Nat} {keyword : Token}
    {done : Unit} (h : chunk.requireBrace line column keyword = .ok done) :
    ∃ brace, chunk.terminator = some ⟨brace, .openBrace⟩ := by
  unfold requireBrace at h
  split at h
  · next brace => exact endsIn_openBrace brace
  · cases h

def IsCut (chunk : Chunk) : Prop := ∀ lexeme ∈ chunk.terminator, lexeme.token.isSeparator = true

end Chunk

/-! ### What an outline takes -/

/-- What of an outline decides which chunks may follow: for each open clause, the innermost first,
whether another clause may follow it, and whether one may follow now. -/
structure Nesting where
  clauses : List Bool
  goesOn : Bool

def Clause.extensible : Clause → Bool
  | test .. => true
  | otherwise .. => false

def Tail.extensible : Tail → Bool
  | closed .. => true
  | settled _ | ended _ => false

def Outline.nesting (outline : Outline) : Nesting :=
  ⟨outline.clauses.map Clause.extensible, outline.tail.extensible⟩

@[simp] theorem Clause.extensible_close (clause : Clause) (body : Program) :
    (clause.close body).extensible = clause.extensible := by
  cases clause <;> rfl

namespace Nesting

/-- What may be read where the nesting is as at first, and how it is then. -/
inductive Reads : Nesting → Chunk → Nesting → Prop where
  | empty {nesting : Nesting} {chunk : Chunk} :
      chunk.tokens = [] → IsEnd chunk.ending → Reads nesting chunk nesting
  | statement {clauses : List Bool} {goesOn : Bool} {chunk : Chunk} :
      IsStatement chunk.tokens → IsEnd chunk.ending →
      Reads ⟨clauses, goesOn⟩ chunk ⟨clauses, false⟩
  | close {clauses : List Bool} {outer goesOn : Bool} (brace : Nat) :
      Reads ⟨outer :: clauses, goesOn⟩ ⟨[], some ⟨brace, .closeBrace⟩⟩ ⟨clauses, outer⟩
  | lastStatement {clauses : List Bool} {outer goesOn : Bool} {tokens : List Lexeme}
      (brace : Nat) : IsStatement tokens →
      Reads ⟨outer :: clauses, goesOn⟩ ⟨tokens, some ⟨brace, .closeBrace⟩⟩ ⟨clauses, outer⟩
  | opening {clauses : List Bool} {goesOn : Bool} {condition : List Lexeme} (column brace : Nat) :
      Converts condition →
      Reads ⟨clauses, goesOn⟩ ⟨⟨column, .ifKeyword⟩ :: condition, some ⟨brace, .openBrace⟩⟩
        ⟨true :: clauses, false⟩
  | alternative {clauses : List Bool} {condition : List Lexeme} (column brace : Nat) :
      Converts condition →
      Reads ⟨clauses, true⟩ ⟨⟨column, .elseifKeyword⟩ :: condition, some ⟨brace, .openBrace⟩⟩
        ⟨true :: clauses, false⟩
  | otherwise {clauses : List Bool} (column brace : Nat) :
      Reads ⟨clauses, true⟩ ⟨[⟨column, .elseKeyword⟩], some ⟨brace, .openBrace⟩⟩
        ⟨false :: clauses, false⟩

end Nesting

namespace Outline

/-- How an outline ends a statement, or goes on without one. -/
theorem separate_cases {outline next : Outline} {line : Nat} {chunk : Chunk} (cut : chunk.IsCut)
    (h : outline.separate line chunk.terminator = .ok next) :
    (IsEnd chunk.ending ∧ next = outline) ∨
      ∃ brace clause clauses, chunk.terminator = some ⟨brace, .closeBrace⟩ ∧
        outline.clauses = clause :: clauses ∧
        next = ⟨clauses, clause.close outline.tail.program⟩ := by
  obtain ⟨tokens, terminator⟩ := chunk
  rcases terminator with _ | ⟨column, token⟩
  · cases h
    exact .inl ⟨.lineEnd, rfl⟩
  · have separator : token.isSeparator = true := cut ⟨column, token⟩ rfl
    cases token
    case semicolon =>
      cases h
      exact .inl ⟨.semicolon column, rfl⟩
    case openBrace => cases h
    case closeBrace =>
      change outline.leave line column = .ok next at h
      unfold leave at h
      split at h
      · cases h
      · next clause clauses opened =>
        cases h
        exact .inr ⟨column, clause, clauses, rfl, opened, rfl⟩
    all_goals cases separator

theorem extensible_of_continued {outline : Outline} {line column : Nat} {keyword : Token}
    {found : Chain × Nat × Postfix × Program}
    (h : outline.continued line column keyword = .ok found) : outline.tail.extensible = true := by
  unfold continued at h
  split at h
  · cases h
  · cases h
  · next tail =>
    rw [tail]
    rfl

theorem exists_continued {outline : Outline} (goesOn : outline.tail.extensible = true)
    (line column : Nat) (keyword : Token) :
    ∃ chain before test body,
      outline.continued line column keyword = .ok (chain, before, test, body) := by
  unfold continued
  cases found : outline.tail with
  | settled program =>
    rw [found] at goesOn
    cases goesOn
  | ended program =>
    rw [found] at goesOn
    cases goesOn
  | closed chain before test body => exact ⟨chain, before, test, body, rfl⟩

theorem nesting_of_read {outline next : Outline} {line : Nat} {chunk : Chunk} (cut : chunk.IsCut)
    (h : outline.read none line chunk = .ok next) : outline.nesting.Reads chunk next.nesting := by
  have tokens := chunk.tokens_of_form
  unfold read at h
  cases form : chunk.form with
  | blank =>
    rw [form] at h tokens
    rcases separate_cases cut h with ⟨ends, rfl⟩ | ⟨brace, clause, clauses, closes, opened, rfl⟩
    · exact .empty tokens ends
    · obtain ⟨spelt, terminator⟩ := chunk
      dsimp only at tokens closes
      subst tokens closes
      simp only [nesting, opened, List.map_cons, Clause.extensible_close]
      exact .close brace
  | statement spelt =>
    rw [form] at h tokens
    obtain ⟨action, stepped, h⟩ := bind_ok h
    have statement := Chunk.isStatement_of_step stepped
    rcases separate_cases cut h with ⟨ends, rfl⟩ | ⟨brace, clause, clauses, closes, opened, rfl⟩
    · exact .statement (tokens ▸ statement) ends
    · obtain ⟨spelt, terminator⟩ := chunk
      dsimp only at tokens closes
      subst tokens closes
      change outline.clauses = clause :: clauses at opened
      simp only [nesting, opened, List.map_cons, Clause.extensible_close]
      exact .lastStatement brace statement
  | opening column header =>
    rw [form] at h tokens
    obtain ⟨_, braced, h⟩ := bind_ok h
    obtain ⟨condition, tested, h⟩ := bind_ok h
    cases h
    obtain ⟨brace, terminator⟩ := Chunk.terminator_of_requireBrace braced
    obtain ⟨spelt, ended⟩ := chunk
    dsimp only at tokens terminator
    subst tokens terminator
    exact .opening column brace (Chunk.converts_of_condition tested)
  | alternative column header =>
    rw [form] at h tokens
    obtain ⟨⟨chain, before, test, body⟩, goesOn, h⟩ := bind_ok h
    obtain ⟨_, braced, h⟩ := bind_ok h
    obtain ⟨condition, tested, h⟩ := bind_ok h
    cases h
    obtain ⟨brace, terminator⟩ := Chunk.terminator_of_requireBrace braced
    obtain ⟨spelt, ended⟩ := chunk
    dsimp only at tokens terminator
    subst tokens terminator
    rw [nesting, extensible_of_continued goesOn]
    exact .alternative column brace (Chunk.converts_of_condition tested)
  | otherwise column header =>
    rw [form] at h tokens
    obtain ⟨⟨chain, before, test, body⟩, goesOn, h⟩ := bind_ok h
    obtain ⟨_, nothing, h⟩ := bind_ok h
    obtain ⟨_, braced, h⟩ := bind_ok h
    cases h
    obtain ⟨brace, terminator⟩ := Chunk.terminator_of_requireBrace braced
    obtain ⟨spelt, ended⟩ := chunk
    dsimp only at tokens terminator
    subst tokens terminator
    cases header with
    | cons lexeme rest => cases nothing
    | nil =>
      rw [nesting, extensible_of_continued goesOn]
      exact .otherwise column brace

theorem nesting_enter (outline : Outline) (clause : Clause) :
    (outline.enter clause).nesting = ⟨clause.extensible :: outline.nesting.clauses, false⟩ := rfl

theorem exists_separate {outline : Outline} {chunk : Chunk} (ends : IsEnd chunk.ending)
    (line : Nat) : outline.separate line chunk.terminator = .ok outline := by
  obtain ⟨tokens, _ | ⟨column, token⟩⟩ := chunk
  · rfl
  · cases ends
    rfl

theorem exists_read {outline : Outline} {chunk : Chunk} {nesting : Nesting}
    (reads : outline.nesting.Reads chunk nesting) (line : Nat) :
    ∃ next, outline.read none line chunk = .ok next ∧ next.nesting = nesting := by
  generalize start : outline.nesting = before at reads
  cases reads with
  | empty nothing ends =>
    obtain ⟨tokens, terminator⟩ := chunk
    cases nothing
    exact ⟨outline, exists_separate ends line, start⟩
  | statement statement ends =>
    obtain ⟨action, stepped⟩ := Chunk.exists_step statement line
    refine ⟨outline.add line action, ?_, ?_⟩
    · unfold read
      rw [Chunk.form_of_isStatement statement chunk.terminator]
      dsimp only
      rw [stepped]
      exact exists_separate ends line
    · cases start
      rfl
  | close brace =>
    obtain ⟨_ | ⟨clause, clauses⟩, tail⟩ := outline
    · cases start
    · cases start
      refine ⟨⟨clauses, clause.close tail.program⟩, rfl, ?_⟩
      simp [nesting]
  | lastStatement brace statement =>
    obtain ⟨action, stepped⟩ := Chunk.exists_step statement line
    obtain ⟨_ | ⟨clause, clauses⟩, tail⟩ := outline
    · cases start
    · cases start
      refine ⟨⟨clauses, clause.close (.step tail.program line action)⟩, ?_, ?_⟩
      · unfold read
        rw [Chunk.form_of_isStatement statement]
        dsimp only
        rw [stepped]
        rfl
      · simp [nesting]
  | opening column brace converts =>
    obtain ⟨condition, tested⟩ := Chunk.exists_condition converts line column .ifKeyword
    refine ⟨outline.enter (.test (.first outline.tail.program line column) line condition), ?_, ?_⟩
    · unfold read
      dsimp only [Chunk.form]
      rw [tested]
      rfl
    · rw [nesting_enter, start]
      rfl
  | alternative column brace converts =>
    obtain ⟨condition, tested⟩ := Chunk.exists_condition converts line column .elseifKeyword
    have extensible : outline.tail.extensible = true := congrArg Nesting.goesOn start
    obtain ⟨chain, before, test, body, goesOn⟩ :=
      exists_continued extensible line column .elseifKeyword
    refine ⟨outline.enter (.test (.after chain before test body line) line condition), ?_, ?_⟩
    · unfold read
      dsimp only [Chunk.form]
      rw [goesOn, tested]
      rfl
    · rw [nesting_enter, start]
      rfl
  | otherwise column brace =>
    have extensible : outline.tail.extensible = true := congrArg Nesting.goesOn start
    obtain ⟨chain, before, test, body, goesOn⟩ :=
      exists_continued extensible line column .elseKeyword
    refine ⟨outline.enter (.otherwise chain before test body line), ?_, ?_⟩
    · unfold read
      dsimp only [Chunk.form]
      rw [goesOn]
      rfl
    · rw [nesting_enter, start]
      rfl

end Outline

end EventScript
