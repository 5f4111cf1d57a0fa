import EventScript.Proofs.Token.Pieces

/-!
# Reading on

Behind pieces of a text the lexer reads on as if the text started there.
-/

namespace EventScript

/-! ### Blanks start no token -/

namespace Text

def blanks : List Char :=
  blankRanges.flatMap fun range => (List.range' range.1 (range.2 + 1 - range.1)).map Char.ofNat

theorem mem_blanks {c : Char} (blank : isBlank c = true) : c ∈ blanks := by
  obtain ⟨range, member, inside⟩ := List.any_eq_true.mp blank
  rw [Bool.and_eq_true, decide_eq_true_eq, decide_eq_true_eq] at inside
  refine List.mem_flatMap.mpr ⟨range, member, List.mem_map.mpr ⟨c.toNat, ?_, c.ofNat_toNat⟩⟩
  exact List.mem_range'_1.mpr (by omega)

end Text

namespace Token

theorem read_blank {c : Char} (blank : c ∈ '#' :: Text.blanks) (rest : List Char) :
    read c rest = .error (.unrecognized c) := by
  have refused : ('#' :: Text.blanks).all (fun c => !operatorStarts.contains c && c != '"' &&
      !c.isDigit && !startsWord c) = true := by decide +kernel
  have others := List.all_eq_true.mp refused c blank
  simp only [Bool.and_eq_true, Bool.not_eq_true', bne_iff_ne, ne_eq] at others
  obtain ⟨⟨⟨noOperator, noQuote⟩, noDigit⟩, noWord⟩ := others
  refine read_unrecognized (readFixed_eq_none ?_ rest) noQuote ?_ ?_
  · simpa using noOperator
  · rw [noDigit]
    exact Bool.false_ne_true
  · rw [noWord]
    exact Bool.false_ne_true

theorem visible_of_read {c : Char} {rest : List Char} {found : Token × Nat}
    (h : read c rest = .ok found) : Text.isBlank c = false ∧ c ≠ '#' := by
  have starts : c ∉ '#' :: Text.blanks := by
    intro blank
    rw [read_blank blank] at h
    cases h
  rw [List.mem_cons, not_or] at starts
  exact ⟨Bool.eq_false_iff.mpr fun blank => starts.2 (Text.mem_blanks blank), starts.1⟩

/-- What is the longest there is what is read. -/
theorem IsLexeme.read {c : Char} {front behind : List Char} {token : Token}
    (isLexeme : IsLexeme (c :: front ++ behind) (c :: front) token) :
    Token.read c (front ++ behind) = .ok (token, front.length) := by
  obtain ⟨found, more, read, within, same⟩ := isLexeme.spells.read_append behind
  obtain ⟨other, rest, split, rfl, longer⟩ := isLexeme_of_read read
  have starts : c :: other <+: c :: front ++ behind := ⟨rest, by simp [split]⟩
  have bound := isLexeme.longest.longest _ ⟨found, longer.spells⟩ starts
  rw [List.length_cons, List.length_cons] at bound
  have width : other.length = front.length := by omega
  rw [read, same width, width]

end Token

/-! ### Pieces -/

namespace Lexer

theorem tokens_of_read {gap rest : List Char} {c : Char} {token : Token} {more : Nat}
    (blanks : IsBlanks gap) (read : Token.read c rest = .ok (token, more)) (column : Nat) :
    tokens ⟨gap ++ c :: rest, column⟩ =
      (tokens ⟨rest.drop more, column + gap.length + (more + 1)⟩).map
        (⟨column + gap.length, token⟩ :: ·) := by
  obtain ⟨visible, noComment⟩ := Token.visible_of_read read
  have passed : (gap ++ c :: rest).takeWhile Text.isBlank = gap := by
    rw [List.takeWhile_append_of_pos blanks]
    simp [visible]
  have start : skipBlanks ⟨gap ++ c :: rest, column⟩ = ⟨c :: rest, column + gap.length⟩ := by
    simp [skipBlanks, advance, passed]
  have next := next_read (congrArg Lexer.rest start) noComment
  rw [read] at next
  rw [tokens_eq, next, start]
  rfl

theorem tokens_piece {piece : Piece} {behind : List Char} (blanks : IsBlanks piece.gap)
    (isLexeme : Token.IsLexeme (piece.spelling ++ behind) piece.spelling piece.token)
    (column : Nat) :
    tokens ⟨piece.characters ++ behind, column⟩ =
      (tokens ⟨behind, column + piece.characters.length⟩).map
        (⟨column + piece.gap.length, piece.token⟩ :: ·) := by
  obtain ⟨gap, spelling, token⟩ := piece
  obtain ⟨c, front, rfl⟩ := isLexeme.spells.exists_cons
  have read := tokens_of_read blanks isLexeme.read column
  rw [List.drop_left] at read
  simpa [Piece.characters, Nat.add_assoc] using read

theorem tokens_pieces {text rest : List Char} {pieces : List Piece}
    (splits : Splits text pieces rest) (column : Nat) :
    tokens ⟨text, column⟩ =
      (tokens ⟨rest, column + (pieces.flatMap Piece.characters).length⟩).map
        (Piece.lexemes column pieces ++ ·) := by
  induction splits generalizing column with
  | nil rest =>
    change tokens ⟨rest, column⟩ = (tokens ⟨rest, column⟩).map ([] ++ ·)
    cases tokens ⟨rest, column⟩ with
    | ok lexemes => rfl
    | error error => rfl
  | @cons piece behind pieces rest blanks isLexeme _ ih =>
    rw [tokens_piece blanks isLexeme column, ih, List.flatMap_cons, List.length_append,
      ← Nat.add_assoc]
    cases tokens ⟨rest, _⟩ with
    | ok lexemes => rfl
    | error error => rfl

end Lexer

end EventScript
