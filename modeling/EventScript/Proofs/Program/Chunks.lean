import EventScript.Chunk
import EventScript.Proofs.Outcome

/-!
# Reading chunks

What two ways to read the chunks of a source have in common, what one of them keeps, and where it
stops.
-/

namespace EventScript.Chunk

/-! ### Chunks of a line -/

def lexemes (chunk : Chunk) : List Lexeme := chunk.tokens ++ chunk.terminator.toList

theorem mem_of_mem_splitAfter {begun tokens : List Lexeme} {chunk : Chunk} {lexeme : Lexeme}
    (member : chunk ∈ splitAfter begun tokens) (inside : lexeme ∈ chunk.lexemes) :
    lexeme ∈ begun ∨ lexeme ∈ tokens := by
  induction tokens generalizing begun with
  | nil =>
    rw [splitAfter] at member
    split at member
    · cases member
    · obtain rfl := List.mem_singleton.mp member
      simpa [lexemes] using inside
  | cons token rest ih =>
    rw [splitAfter] at member
    split at member
    · rcases List.mem_cons.mp member with rfl | member
      · rcases List.mem_append.mp inside with inside | inside
        · exact .inl (List.mem_reverse.mp inside)
        · obtain rfl : lexeme = token := by simpa using inside
          exact .inr List.mem_cons_self
      · rcases ih member with none | later
        · cases none
        · exact .inr (List.mem_cons_of_mem token later)
    · rcases ih member with first | later
      · rcases List.mem_cons.mp first with rfl | first
        · exact .inr List.mem_cons_self
        · exact .inl first
      · exact .inr (List.mem_cons_of_mem token later)

theorem mem_of_mem_split {tokens : List Lexeme} {chunk : Chunk} {lexeme : Lexeme}
    (member : chunk ∈ split tokens) (inside : lexeme ∈ chunk.lexemes) : lexeme ∈ tokens :=
  (mem_of_mem_splitAfter member inside).resolve_left (List.not_mem_nil)

theorem tokens_of_form (chunk : Chunk) :
    match chunk.form with
    | .blank => chunk.tokens = []
    | .opening column header => chunk.tokens = ⟨column, .ifKeyword⟩ :: header
    | .alternative column header => chunk.tokens = ⟨column, .elseifKeyword⟩ :: header
    | .otherwise column header => chunk.tokens = ⟨column, .elseKeyword⟩ :: header
    | .statement tokens => chunk.tokens = tokens := by
  obtain ⟨tokens, terminator⟩ := chunk
  match tokens with
  | [] => rfl
  | ⟨column, token⟩ :: header => cases token <;> rfl

/-! ### Reading -/

theorem foldLine_of_tokens {α : Type} {read : Nat → α → Chunk → Except ScriptError α} {state : α}
    {line : Nat} {text : List Char} {tokens : List Lexeme}
    (lexed : (Lexer.ofText text).tokens = .ok tokens) :
    foldLine read state line text = (split tokens).foldlM (read line) state := by
  rw [foldLine, lexed]
  rfl

theorem foldLine_of_error {α : Type} {read : Nat → α → Chunk → Except ScriptError α} {state : α}
    {line column : Nat} {text : List Char} {cause : LexicalError}
    (stuck : (Lexer.ofText text).tokens = .error (column, cause)) :
    foldLine read state line text = .error (.lexical line column cause) := by
  rw [foldLine, stuck]
  rfl

theorem foldLines_agree {α β : Type} {related : α → β → Prop}
    {first : Nat → α → Chunk → Except ScriptError α}
    {second : Nat → β → Chunk → Except ScriptError β}
    (steps : ∀ line a b chunk, related a b → Agree related (first line a chunk)
      (second line b chunk)) {a : α} {b : β} (holds : related a b) (line : Nat)
    (lines : List (List Char)) :
    Agree related (foldLines first a line lines) (foldLines second b line lines) := by
  induction lines generalizing a b line with
  | nil => exact .ok holds
  | cons text rest ih =>
    have read : Agree related (foldLine first a line text) (foldLine second b line text) :=
      .after _ fun tokens => .foldlM (steps line) holds
    exact read.bind fun a b holds => ih holds (line + 1)

/-- What no chunk of any of the lines breaks. -/
theorem foldLines_keeps {α : Type} {invariant : α → Prop}
    {read : Nat → α → Chunk → Except ScriptError α} {line : Nat} {lines : List (List Char)}
    (steps : ∀ before text after tokens, lines = before ++ text :: after →
      (Lexer.ofText text).tokens = .ok tokens → ∀ chunk ∈ split tokens, ∀ state next,
      invariant state → read (line + before.length) state chunk = .ok next → invariant next)
    {state final : α} (holds : invariant state) (h : foldLines read state line lines = .ok final) :
    invariant final := by
  induction lines generalizing state line with
  | nil =>
    cases h
    exact holds
  | cons text rest ih =>
    obtain ⟨between, first, h⟩ := bind_ok h
    obtain ⟨tokens, lexed, first⟩ := bind_ok first
    have here := steps [] text rest tokens rfl (mapError_ok lexed)
    refine ih ?_ (foldlM_keeps here holds first) h
    rintro before other after tokens rfl lexed chunk member state next holds stepped
    refine steps (text :: before) other after tokens rfl lexed chunk member state next holds ?_
    rwa [List.length_cons, Nat.add_comm before.length, ← Nat.add_assoc]

theorem foldLines_preserves {α : Type} {invariant : α → Prop}
    {read : Nat → α → Chunk → Except ScriptError α}
    (steps : ∀ line state chunk next, invariant state → read line state chunk = .ok next →
      invariant next) {state final : α} {line : Nat} {lines : List (List Char)}
    (holds : invariant state) (h : foldLines read state line lines = .ok final) :
    invariant final :=
  foldLines_keeps (fun _ _ _ _ _ _ chunk _ state next => steps _ state chunk next) holds h

theorem foldLines_append {α : Type} (read : Nat → α → Chunk → Except ScriptError α) (state : α)
    (line : Nat) (first second : List (List Char)) :
    foldLines read state line (first ++ second) =
      foldLines read state line first >>= fun state =>
        foldLines read state (line + first.length) second := by
  induction first generalizing state line with
  | nil => rfl
  | cons text first ih =>
    have next : line + 1 + first.length = line + (text :: first).length := by
      rw [List.length_cons]
      omega
    rw [List.cons_append, foldLines, foldLines, bind_assoc]
    congr 1
    funext state
    rw [ih, next]

/-- Reading that fails does so on one of the lines, those before it being read. -/
theorem foldLines_error {α : Type} {read : Nat → α → Chunk → Except ScriptError α} {state : α}
    {line : Nat} {lines : List (List Char)} {error : ScriptError}
    (h : foldLines read state line lines = .error error) :
    ∃ before text after between, lines = before ++ text :: after ∧
      foldLines read state line before = .ok between ∧
      foldLine read between (line + before.length) text = .error error := by
  induction lines generalizing state line with
  | nil => cases h
  | cons text rest ih =>
    rcases bind_error h with failed | ⟨next, first, h⟩
    · exact ⟨[], text, rest, state, rfl, rfl, failed⟩
    · obtain ⟨before, other, after, between, rfl, walked, failed⟩ := ih h
      refine ⟨text :: before, other, after, between, rfl, ?_, ?_⟩
      · rw [foldLines, first]
        exact walked
      · rwa [List.length_cons, Nat.add_comm before.length, ← Nat.add_assoc]

theorem foldLine_error {α : Type} {read : Nat → α → Chunk → Except ScriptError α} {state : α}
    {line : Nat} {text : List Char} {error : ScriptError}
    (h : foldLine read state line text = .error error) :
    (∃ column cause, (Lexer.ofText text).tokens = .error (column, cause) ∧
      error = .lexical line column cause) ∨
    ∃ tokens chunk between, (Lexer.ofText text).tokens = .ok tokens ∧ chunk ∈ split tokens ∧
      read line between chunk = .error error := by
  rcases bind_error h with failed | ⟨tokens, lexed, h⟩
  · obtain ⟨⟨column, cause⟩, stuck, rfl⟩ := mapError_error failed
    exact .inl ⟨column, cause, stuck, rfl⟩
  · obtain ⟨before, chunk, after, between, cut, -, failed⟩ := foldlM_error h
    refine .inr ⟨tokens, chunk, between, mapError_ok lexed, ?_, failed⟩
    rw [cut]
    exact List.mem_append_right before List.mem_cons_self

/-- A way to read chunks that succeeds wherever another one does, on lines further down. -/
theorem foldLines_simulates {α β : Type} {related : α → β → Prop} {down : Nat}
    {first : Nat → α → Chunk → Except ScriptError α}
    {second : Nat → β → Chunk → Except ScriptError β}
    (steps : ∀ line a b chunk next, related a b → first line a chunk = .ok next →
      ∃ other, second (line + down) b chunk = .ok other ∧ related next other)
    {a final : α} {b : β} {line : Nat} {lines : List (List Char)} (holds : related a b)
    (h : foldLines first a line lines = .ok final) :
    ∃ other, foldLines second b (line + down) lines = .ok other ∧ related final other := by
  induction lines generalizing a b line with
  | nil =>
    cases h
    exact ⟨b, rfl, holds⟩
  | cons text rest ih =>
    obtain ⟨between, read, h⟩ := bind_ok h
    obtain ⟨tokens, lexed, read⟩ := bind_ok read
    obtain ⟨other, read, holds⟩ := foldlM_simulates (steps line) holds read
    obtain ⟨last, rest, holds⟩ := ih holds h
    have next : line + 1 + down = line + down + 1 := Nat.add_right_comm _ _ _
    refine ⟨last, ?_, holds⟩
    rw [foldLines, foldLine_of_tokens (mapError_ok lexed), read, ← next]
    exact rest

/-- A way to read chunks that narrows another one at every chunk does so on all lines. -/
theorem foldLines_narrows {α : Type} {reason : ScriptError → Prop} {inOrder : α → Prop}
    {first second : Nat → α → Chunk → Except ScriptError α}
    (steps : ∀ line state chunk,
      Narrows reason (inOrder state) inOrder (first line state chunk) (second line state chunk))
    (state : α) (line : Nat) (lines : List (List Char)) :
    Narrows reason (inOrder state) inOrder (foldLines first state line lines)
      (foldLines second state line lines) := by
  induction lines generalizing state line with
  | nil =>
    apply Narrows.refl
    rintro _ ⟨⟩ fine
    exact fine
  | cons text rest ih =>
    have read : Narrows reason (inOrder state) inOrder (foldLine first state line text)
        (foldLine second state line text) :=
      .after fun tokens _ => .foldlM fun state chunk => steps line state chunk
    exact read.bind fun next => ih next (line + 1)

end EventScript.Chunk
