import EventScript.Proofs.Token.Spelling

/-!
# Pieces of a text

A text is read in pieces, each a gap of blanks and the lexeme behind it. Nothing of the text is lost
between them.
-/

namespace EventScript

structure Piece where
  gap : List Char
  spelling : List Char
  token : Token

namespace Piece

def characters (piece : Piece) : List Char := piece.gap ++ piece.spelling

def lexemes (column : Nat) : List Piece → List Lexeme
  | [] => []
  | piece :: pieces =>
    ⟨column + piece.gap.length, piece.token⟩ :: lexemes (column + piece.characters.length) pieces

end Piece

def IsBlanks (gap : List Char) : Prop := ∀ c ∈ gap, Text.isBlank c = true

/-- Whether a text is pieces, each of which ends in the longest lexeme there, and the rest. -/
inductive Splits : List Char → List Piece → List Char → Prop where
  | nil (rest : List Char) : Splits rest [] rest
  | cons {piece : Piece} {behind : List Char} {pieces : List Piece} {rest : List Char} :
      IsBlanks piece.gap → Token.IsLexeme (piece.spelling ++ behind) piece.spelling piece.token →
      Splits behind pieces rest →
      Splits (piece.characters ++ behind) (piece :: pieces) rest

theorem Splits.eq_append {text rest : List Char} {pieces : List Piece}
    (splits : Splits text pieces rest) : text = pieces.flatMap Piece.characters ++ rest := by
  induction splits with
  | nil => rfl
  | cons _ _ _ ih => rw [List.flatMap_cons, List.append_assoc, ← ih]

/-- A lexeme of a text is the last one of a front of it. -/
theorem Splits.exists_front {text rest : List Char} {pieces : List Piece}
    (splits : Splits text pieces rest) {column : Nat} :
    ∀ lexeme ∈ Piece.lexemes column pieces, ∃ before piece behind,
      Splits text (before ++ [piece]) behind ∧ lexeme = ⟨column +
        (before.flatMap Piece.characters ++ piece.gap).length, piece.token⟩ := by
  induction splits generalizing column with
  | nil => nofun
  | @cons piece behind pieces rest blanks isLexeme splits ih =>
    intro lexeme member
    rcases List.mem_cons.mp member with rfl | member
    · exact ⟨[], piece, behind, .cons blanks isLexeme (.nil behind), rfl⟩
    · obtain ⟨before, last, behind, splits, rfl⟩ := ih lexeme member
      refine ⟨piece :: before, last, behind, .cons blanks isLexeme splits, ?_⟩
      simp only [List.flatMap_cons, List.length_append, Nat.add_assoc]

namespace Lexer

theorem rest_skipBlanks (lexer : Lexer) :
    lexer.skipBlanks.rest = lexer.rest.dropWhile Text.isBlank := by
  have behind := @List.drop_left _ (lexer.rest.takeWhile Text.isBlank)
    (lexer.rest.dropWhile Text.isBlank)
  rwa [List.takeWhile_append_dropWhile] at behind

theorem exists_gap (lexer : Lexer) :
    ∃ gap, IsBlanks gap ∧ lexer.rest = gap ++ lexer.skipBlanks.rest ∧
      lexer.skipBlanks.column = lexer.column + gap.length := by
  refine ⟨lexer.rest.takeWhile Text.isBlank, fun c member => List.mem_takeWhile_imp member, ?_, rfl⟩
  rw [rest_skipBlanks]
  exact List.takeWhile_append_dropWhile.symm

theorem not_isBlank_of_skipBlanks {lexer : Lexer} {c : Char} {rest : List Char}
    (starts : lexer.skipBlanks.rest = c :: rest) : Text.isBlank c = false := by
  have visible := List.head?_dropWhile_not Text.isBlank lexer.rest
  rw [← rest_skipBlanks, starts] at visible
  exact visible

/-- How a text is read that starts at the column: to its end, or up to a character that starts no
token. -/
inductive Reads (text : List Char) (column : Nat) :
    Except (Nat × LexicalError) (List Lexeme) → Prop where
  | whole {pieces : List Piece} {gap comment : List Char} :
      Splits text pieces (gap ++ comment) → IsBlanks gap →
      comment = [] ∨ comment.head? = some '#' →
      Reads text column (.ok (Piece.lexemes column pieces))
  | stuck {pieces : List Piece} {gap : List Char} {c : Char} {behind : List Char} :
      Splits text pieces (gap ++ c :: behind) → IsBlanks gap →
      Text.isBlank c = false → c ≠ '#' →
      (∀ front token, front <+: c :: behind → ¬ Token.Spells front token) →
      Reads text column
        (.error (column + (pieces.flatMap Piece.characters ++ gap).length, Token.startError c))

theorem Reads.cons (piece : Piece) {behind : List Char} {column : Nat}
    {found : Except (Nat × LexicalError) (List Lexeme)} (blanks : IsBlanks piece.gap)
    (isLexeme : Token.IsLexeme (piece.spelling ++ behind) piece.spelling piece.token)
    (reads : Reads behind (column + piece.characters.length) found) :
    Reads (piece.characters ++ behind) column
      (found.map (⟨column + piece.gap.length, piece.token⟩ :: ·)) := by
  cases reads with
  | whole splits gap comment => exact .whole (.cons blanks isLexeme splits) gap comment
  | stuck splits gap visible noComment none =>
    have stuck : Reads _ column _ :=
      .stuck (.cons blanks isLexeme splits) gap visible noComment none
    rw [List.flatMap_cons, List.append_assoc, List.length_append, ← Nat.add_assoc] at stuck
    exact stuck

theorem next_of_read_error {lexer : Lexer} {c : Char} {rest : List Char} {cause : LexicalError}
    (starts : lexer.skipBlanks.rest = c :: rest) (noComment : c ≠ '#')
    (failed : Token.read c rest = .error cause) :
    ∃ after, lexer.next = (.error lexer.skipBlanks.column cause, after) := by
  rw [next_read starts noComment, failed]
  cases cause with
  | unrecognized => exact ⟨_, rfl⟩
  | unterminated => exact ⟨_, rfl⟩

theorem reads_tokens (lexer : Lexer) : Reads lexer.rest lexer.column lexer.tokens := by
  induction size : lexer.rest.length using Nat.strongRecOn generalizing lexer with
  | ind size ih =>
    subst size
    obtain ⟨gap, blanks, same, column⟩ := lexer.exists_gap
    rw [tokens_eq]
    cases start : lexer.skipBlanks.rest with
    | nil =>
      obtain ⟨after, done⟩ := @next_done lexer [] (.inl start)
      rw [done, same, start]
      exact .whole (.nil _) blanks (.inl rfl)
    | cons c rest =>
      by_cases comment : c = '#'
      · subst comment
        obtain ⟨after, done⟩ := next_done (.inr start)
        rw [done, same, start]
        exact .whole (.nil _) blanks (.inr rfl)
      · cases read : Token.read c rest with
        | ok found =>
          obtain ⟨token, more⟩ := found
          have next := next_read start comment
          rw [read] at next
          obtain ⟨front, behind, rfl, rfl, isLexeme⟩ := Token.isLexeme_of_read read
          have later := ih _ (next_shortens next) _ rfl
          have rest : (lexer.skipBlanks.advance (front.length + 1)).rest = behind := by
            simp [advance, start]
          have width : (lexer.skipBlanks.advance (front.length + 1)).column =
              lexer.column + (gap ++ c :: front).length := by
            simp only [advance, column, List.length_append, List.length_cons]
            omega
          rw [rest, width] at later
          have all := Reads.cons ⟨gap, c :: front, token⟩ blanks isLexeme later
          rw [next, same, start, column]
          simpa [Piece.characters] using all
        | error cause =>
          obtain ⟨after, next⟩ := next_of_read_error start comment read
          obtain ⟨none, rfl⟩ := Token.not_spells_of_read read
          rw [next, same, start, column]
          exact .stuck (.nil _) blanks (not_isBlank_of_skipBlanks start) comment none

end Lexer

end EventScript
