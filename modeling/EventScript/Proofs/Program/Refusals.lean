import EventScript.Proofs.Expression.Columns
import EventScript.Proofs.Program.Rejection

/-!
# Refusals

Why a chunk is refused: for a token of its own that stands in the wrong place, or for the expression
that it holds.
-/

namespace EventScript

/-- The expressions that a chunk may hold, each with whether it is a statement by itself. -/
inductive Chunk.Holds (chunk : Chunk) : Bool → List Lexeme → Prop where
  | opening {column : Nat} {header : List Lexeme} :
      chunk.form = .opening column header → chunk.Holds false header
  | alternative {column : Nat} {header : List Lexeme} :
      chunk.form = .alternative column header → chunk.Holds false header
  | assignment {column sign : Nat} {target : String} {value : List Lexeme} :
      chunk.tokens = ⟨column, .ident target⟩ :: ⟨sign, .assign⟩ :: value → chunk.Holds false value
  | globalAssignment {keyword column sign : Nat} {target : String} {value : List Lexeme} :
      chunk.tokens = ⟨keyword, .globalKeyword⟩ :: ⟨column, .ident target⟩ ::
        ⟨sign, .assign⟩ :: value → chunk.Holds false value
  | bare {tokens : List Lexeme} : chunk.form = .statement tokens → chunk.Holds true tokens

/-- Whether the error is at a token of the chunk, and no wrong call. -/
def ScriptError.Misplaces (line : Nat) (chunk : Chunk) (error : ScriptError) : Prop :=
  ∃ column cause, error = .grammar line column cause ∧
    column ∈ chunk.lexemes.map Lexeme.column ∧ ∀ registry, ¬ cause.Blames registry

namespace Chunk

variable {registry : Option Registry} {line : Nat} {chunk : Chunk} {error : ScriptError}

theorem Holds.sublist {bare : Bool} {expression : List Lexeme}
    (holds : chunk.Holds bare expression) : expression.Sublist chunk.lexemes := by
  have inside : expression.Sublist chunk.tokens := by
    have tokens := chunk.tokens_of_form
    cases holds with
    | opening form =>
      rw [form] at tokens
      rw [tokens]
      exact List.sublist_cons_self ..
    | alternative form =>
      rw [form] at tokens
      rw [tokens]
      exact List.sublist_cons_self ..
    | assignment same =>
      rw [same]
      exact (List.sublist_cons_self ..).cons _
    | globalAssignment same =>
      rw [same]
      exact ((List.sublist_cons_self ..).cons _).cons _
    | bare form =>
      rw [form] at tokens
      exact tokens ▸ List.Sublist.refl _
  exact inside.trans (List.sublist_append_left ..)

theorem column_mem (front : List Lexeme) {lexeme : Lexeme} {behind : List Lexeme}
    (tokens : chunk.tokens = front ++ lexeme :: behind) :
    lexeme.column ∈ chunk.lexemes.map Lexeme.column := by
  refine List.mem_map_of_mem (List.mem_append_left _ ?_)
  rw [tokens]
  exact List.mem_append_right front List.mem_cons_self

theorem requireBrace_error {column : Nat} {keyword : Token} {behind : List Lexeme}
    (tokens : chunk.tokens = ⟨column, keyword⟩ :: behind)
    (h : chunk.requireBrace line column keyword = .error error) : error.Misplaces line chunk := by
  unfold requireBrace at h
  split at h
  · cases h
  · cases h
    exact ⟨_, _, rfl, column_mem [] tokens, nofun⟩

theorem condition_error {column : Nat} {keyword : Token} {header : List Lexeme}
    (tokens : chunk.tokens = ⟨column, keyword⟩ :: header)
    (h : condition registry line column keyword header = .error error) :
    error.Misplaces line chunk ∨ Postfix.checked registry line false header = .error error := by
  unfold condition at h
  split at h
  · cases h
    exact .inl ⟨_, _, rfl, column_mem [] tokens, nofun⟩
  · exact .inr h

theorem requireNothing_error {lexeme : Lexeme} {header : List Lexeme}
    (tokens : chunk.tokens = lexeme :: header)
    (h : requireNothing line header = .error error) : error.Misplaces line chunk := by
  cases header with
  | nil => cases h
  | cons first rest =>
    cases h
    exact ⟨_, _, rfl, column_mem [lexeme] tokens, nofun⟩

theorem step_error {tokens : List Lexeme} (form : chunk.form = .statement tokens)
    (h : step registry line tokens = .error error) :
    error.Misplaces line chunk ∨ ∃ bare expression, chunk.Holds bare expression ∧
      Postfix.checked registry line bare expression = .error error := by
  have same := chunk.tokens_of_form
  rw [form] at same
  unfold step at h
  split at h
  · exact .inr ⟨false, _, .assignment same, map_error h⟩
  · exact .inr ⟨false, _, .globalAssignment same, map_error h⟩
  · cases h
    exact .inl ⟨_, _, rfl, column_mem [] same, nofun⟩
  · exact .inr ⟨true, _, .bare form, map_error h⟩

end Chunk

namespace Assembler

variable {registry : Option Registry} {line : Nat} {assembler : Assembler} {chunk : Chunk}
  {error : ScriptError}

theorem continued_error {column : Nat} {keyword : Token} {behind : List Lexeme}
    (tokens : chunk.tokens = ⟨column, keyword⟩ :: behind)
    (h : assembler.continued line column keyword = .error error) : error.Misplaces line chunk := by
  unfold continued at h
  split at h
  · cases h
    exact ⟨_, _, rfl, Chunk.column_mem [] tokens, nofun⟩
  · split at h
    · cases h
      exact ⟨_, _, rfl, Chunk.column_mem [] tokens, nofun⟩
    · cases h

theorem separate_error (h : assembler.separate line chunk.terminator = .error error) :
    error.Misplaces line chunk := by
  have inside {separator : Lexeme} (ends : chunk.terminator = some separator) :
      separator.column ∈ chunk.lexemes.map Lexeme.column := by
    refine List.mem_map_of_mem (List.mem_append_right _ ?_)
    rw [ends]
    exact List.mem_singleton_self separator
  unfold separate at h
  split at h
  · next ends =>
    split at h
    · cases h
      exact ⟨_, _, rfl, inside ends, nofun⟩
    · cases h
  · next ends =>
    cases h
    exact ⟨_, _, rfl, inside ends, nofun⟩
  · cases h

theorem read_error (h : assembler.read registry line chunk = .error error) :
    error.Misplaces line chunk ∨ ∃ bare expression, chunk.Holds bare expression ∧
      Postfix.checked registry line bare expression = .error error := by
  have tokens := chunk.tokens_of_form
  unfold read at h
  split at h
  · next form =>
    rw [form] at tokens
    rcases bind_error h with failed | ⟨_, -, h⟩
    · exact .inl (Chunk.requireBrace_error tokens failed)
    rcases bind_error h with failed | ⟨condition, -, h⟩
    · exact (Chunk.condition_error tokens failed).imp_right fun refused =>
        ⟨false, _, .opening form, refused⟩
    · cases h
  · next form =>
    rw [form] at tokens
    rcases bind_error h with failed | ⟨conditional, -, h⟩
    · exact .inl (continued_error tokens failed)
    rcases bind_error h with failed | ⟨_, -, h⟩
    · exact .inl (Chunk.requireBrace_error tokens failed)
    rcases bind_error h with failed | ⟨condition, -, h⟩
    · exact (Chunk.condition_error tokens failed).imp_right fun refused =>
        ⟨false, _, .alternative form, refused⟩
    · cases h
  · next form =>
    rw [form] at tokens
    rcases bind_error h with failed | ⟨conditional, -, h⟩
    · exact .inl (continued_error tokens failed)
    rcases bind_error h with failed | ⟨_, -, h⟩
    · exact .inl (Chunk.requireNothing_error tokens failed)
    rcases bind_error h with failed | ⟨_, -, h⟩
    · exact .inl (Chunk.requireBrace_error tokens failed)
    · cases h
  · exact .inl (separate_error h)
  · next form =>
    rcases bind_error h with failed | ⟨step, -, h⟩
    · exact Chunk.step_error form failed
    · exact .inl (separate_error h)

end Assembler

/-! ### Expressions -/

namespace Postfix

theorem checked_error {registry : Option Registry} {line : Nat} {bare : Bool}
    {tokens : List Lexeme} {error : ScriptError}
    (h : checked registry line bare tokens = .error error) :
    (∃ cause, ofLexemes tokens = .error cause ∧ error = cause.onLine line) ∨
    ∃ known code misuse, registry = some known ∧ ofLexemes tokens = .ok code ∧
      code.misuse? known bare = some misuse ∧
      error = .grammar line (callColumn misuse.name tokens) misuse.cause := by
  rcases bind_error h with failed | ⟨code, converted, h⟩
  · obtain ⟨cause, refused, rfl⟩ := mapError_error failed
    exact .inl ⟨cause, refused, rfl⟩
  · cases registry with
    | none => cases h
    | some known =>
      dsimp only [Option.bind_some] at h
      split at h
      · next misuse found =>
        cases h
        exact .inr ⟨known, code, misuse, rfl, mapError_ok converted, found, rfl⟩
      · cases h

end Postfix

end EventScript
