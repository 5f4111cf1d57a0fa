import EventScript.Proofs.Token.Onward

/-!
# Cuts behind separators

No lexeme reaches beyond a separator, so a text can be cut there: either part has the lexemes that
it has in the whole.
-/

namespace EventScript

/-! ### Lexemes of longer and shorter texts -/

namespace Token

theorem IsLexeme.of_read {c : Char} {front behind : List Char} {token : Token}
    (read : Token.read c (front ++ behind) = .ok (token, front.length)) :
    IsLexeme (c :: front ++ behind) (c :: front) token := by
  obtain ⟨other, rest, split, length, isLexeme⟩ := isLexeme_of_read read
  obtain ⟨rfl, rfl⟩ := List.append_inj split length
  exact isLexeme

theorem IsLexeme.shorten {text longer front : List Char} {token : Token}
    (isLexeme : IsLexeme longer front token) (starts : front <+: text) (within : text <+: longer) :
    IsLexeme text front token where
  spells := isLexeme.spells
  only := isLexeme.only
  longest := ⟨isLexeme.longest.holds, starts, fun other spelt begins =>
    isLexeme.longest.longest other spelt (begins.trans within)⟩

theorem IsLexeme.extend {stop : Char} (stops : stop ∈ stops) {front text : List Char} {token : Token}
    (isLexeme : IsLexeme (front ++ text) front token) (behind : List Char) :
    IsLexeme (front ++ (text ++ stop :: behind)) front token := by
  obtain ⟨c, front, rfl⟩ := isLexeme.spells.exists_cons
  have read := read_append stops isLexeme.read behind
  rw [List.append_assoc] at read
  exact .of_read read

theorem Spells.separator {spelling : List Char} {separator : Token}
    (spelt : Spells spelling separator) (separates : separator.isSeparator = true) :
    separator.display.toList = spelling := by
  cases spelt with
  | operator _ same => exact same
  | keyword _ same => exact same
  | identifier => cases separates
  | number => cases separates
  | text => cases separates

/-- A separator is spelled by one character, which spells nothing longer. -/
theorem exists_stop {separator : Token} (separates : separator.isSeparator = true) :
    ∃ stop ∈ stops, stop ≠ '\r' ∧ separator.display.toList = [stop] ∧
      ∀ rest, IsLexeme (stop :: rest) [stop] separator := by
  have single {stop : Char} (fixed : ∀ rest, readFixed stop rest = some (separator, 0)) (rest) :
      IsLexeme (stop :: rest) [stop] separator :=
    @IsLexeme.of_read stop [] rest separator (read_fixed (fixed rest))
  cases separator <;> cases separates
  · exact ⟨';', by decide, by decide, rfl, single fun rest => by cases rest <;> rfl⟩
  · exact ⟨'\x7b', by decide, by decide, rfl, single fun rest => by cases rest <;> rfl⟩
  · exact ⟨'\x7d', by decide, by decide, rfl, single fun rest => by cases rest <;> rfl⟩

end Token

/-! ### Pieces -/

theorem Piece.lexemes_append (column : Nat) (first second : List Piece) :
    Piece.lexemes column (first ++ second) =
      Piece.lexemes column first ++
        Piece.lexemes (column + (first.flatMap Piece.characters).length) second := by
  induction first generalizing column with
  | nil => rfl
  | cons piece first ih =>
    rw [List.cons_append, Piece.lexemes, ih, Piece.lexemes, List.flatMap_cons, List.length_append,
      Nat.add_assoc, List.cons_append]

namespace Splits

variable {text front behind rest : List Char} {pieces : List Piece} {piece : Piece}

theorem snoc (splits : Splits text pieces (piece.characters ++ rest)) (blanks : IsBlanks piece.gap)
    (isLexeme : Token.IsLexeme (piece.spelling ++ rest) piece.spelling piece.token) :
    Splits text (pieces ++ [piece]) rest := by
  generalize behind : piece.characters ++ rest = whole at splits
  induction splits with
  | nil =>
    rw [← behind]
    exact .cons blanks isLexeme (.nil rest)
  | cons gap first _ ih => exact .cons gap first (ih behind)

theorem of_snoc (splits : Splits text (pieces ++ [piece]) rest) :
    Splits text pieces (piece.characters ++ rest) ∧ IsBlanks piece.gap ∧
      Token.IsLexeme (piece.spelling ++ rest) piece.spelling piece.token := by
  induction pieces generalizing text with
  | nil =>
    cases splits with
    | cons blanks isLexeme last =>
      cases last
      exact ⟨.nil _, blanks, isLexeme⟩
  | cons first pieces ih =>
    cases splits with
    | cons blanks isLexeme later =>
      obtain ⟨before, last⟩ := ih later
      exact ⟨.cons blanks isLexeme before, last⟩

theorem shorten (splits : Splits (front ++ behind) pieces (rest ++ behind)) :
    Splits front pieces rest := by
  generalize whole : front ++ behind = text at splits
  generalize left : rest ++ behind = remaining at splits
  induction splits generalizing front with
  | nil =>
    rw [← left] at whole
    rw [List.append_cancel_right whole]
    exact .nil rest
  | @cons piece later pieces remaining blanks isLexeme splits ih =>
    have inner := splits.eq_append
    rw [← left, ← List.append_assoc] at inner
    rw [inner, ← List.append_assoc] at whole
    rw [List.append_cancel_right whole]
    refine .cons blanks (isLexeme.shorten ?_ ?_) (ih inner.symm left)
    · exact List.prefix_append _ _
    · rw [inner]
      exact (List.prefix_append_right_inj _).mpr (List.prefix_append _ _)

theorem extend {stop : Char} (stops : stop ∈ Token.stops) (splits : Splits front pieces rest)
    (behind : List Char) : Splits (front ++ stop :: behind) pieces (rest ++ stop :: behind) := by
  induction splits with
  | nil rest => exact .nil _
  | cons blanks isLexeme _ ih =>
    rw [List.append_assoc]
    exact .cons blanks (isLexeme.extend stops behind) ih

/-- A separator behind the pieces is one more of them, whatever comes behind it. -/
theorem ended {stop : Char} {separator : Token} {gap : List Char} (splits : Splits front pieces gap)
    (blanks : IsBlanks gap) (stops : stop ∈ Token.stops)
    (alone : ∀ rest, Token.IsLexeme (stop :: rest) [stop] separator) (behind : List Char) :
    Splits (front ++ [stop] ++ behind) (pieces ++ [⟨gap, [stop], separator⟩]) behind := by
  have longer := splits.extend stops behind
  have same : gap ++ stop :: behind = gap ++ [stop] ++ behind := by simp
  rw [same] at longer
  rw [List.append_assoc]
  exact longer.snoc blanks (alone behind)

theorem exists_stop (splits : Splits (front ++ behind) (pieces ++ [piece]) behind)
    (separates : piece.token.isSeparator = true) :
    ∃ text stop, front = text ++ [stop] ∧ piece.token.display.toList = [stop] ∧
      Splits text pieces piece.gap ∧ IsBlanks piece.gap := by
  obtain ⟨before, blanks, isLexeme⟩ := splits.of_snoc
  obtain ⟨stop, -, -, display, -⟩ := Token.exists_stop separates
  have spelling := isLexeme.spells.separator separates
  rw [display] at spelling
  have characters : piece.characters = piece.gap ++ [stop] := by rw [Piece.characters, spelling]
  have whole := before.eq_append
  rw [characters, ← List.append_assoc, ← List.append_assoc] at whole
  have front := List.append_cancel_right whole
  refine ⟨_, stop, front, display, ?_, blanks⟩
  rw [front, characters, List.append_assoc, List.append_assoc _ [stop]] at before
  exact before.shorten

end Splits

/-! ### Tokens -/

namespace Lexer

theorem tokens_blank {gap comment : List Char} (blanks : IsBlanks gap)
    (ends : comment = [] ∨ comment.head? = some '#') (column : Nat) :
    tokens ⟨gap ++ comment, column⟩ = .ok [] := by
  have skipped : skipBlanks ⟨gap ++ comment, column⟩ = ⟨comment, column + gap.length⟩ := by
    have visible : comment.takeWhile Text.isBlank = [] := by
      rcases ends with rfl | starts
      · rfl
      · obtain ⟨rest, rfl⟩ := List.head?_eq_some_iff.mp starts
        rfl
    unfold skipBlanks advance
    simp [List.takeWhile_append_of_pos blanks, visible]
  have done : ∃ after, next ⟨gap ++ comment, column⟩ = (.done, after) := by
    rcases ends with rfl | starts
    · exact @next_done _ [] (.inl (congrArg Lexer.rest skipped))
    · obtain ⟨rest, rfl⟩ := List.head?_eq_some_iff.mp starts
      exact next_done (.inr (congrArg Lexer.rest skipped))
  obtain ⟨after, done⟩ := done
  rw [tokens_eq, done]

/-- A text is read without an error if it is pieces up to blanks and a comment. -/
theorem tokens_eq_ok_iff {text : List Char} {column : Nat} {lexemes : List Lexeme} :
    tokens ⟨text, column⟩ = .ok lexemes ↔
      ∃ pieces gap comment, Splits text pieces (gap ++ comment) ∧ IsBlanks gap ∧
        (comment = [] ∨ comment.head? = some '#') ∧ lexemes = Piece.lexemes column pieces := by
  constructor
  · intro read
    have reads := reads_tokens ⟨text, column⟩
    rw [read] at reads
    cases reads with
    | whole splits blanks ends => exact ⟨_, _, _, splits, blanks, ends, rfl⟩
  · rintro ⟨pieces, gap, comment, splits, blanks, ends, rfl⟩
    rw [tokens_pieces splits, tokens_blank blanks ends]
    exact congrArg Except.ok (List.append_nil _)

end Lexer

end EventScript
