import EventScript.Proofs.Program.Unplaced
import EventScript.Proofs.Token.Cuts

/-!
# Separators and line ends

A line may go on in a new line behind any separator, and a semicolon stands for the end of a line.
-/

namespace EventScript

/-! ### Chunks -/

namespace Chunk

theorem splitAfter_append {separator : Lexeme} (separates : separator.token.isSeparator = true)
    (begun tokens rest : List Lexeme) :
    splitAfter begun (tokens ++ separator :: rest) =
      splitAfter begun (tokens ++ [separator]) ++ split rest := by
  induction tokens generalizing begun with
  | nil =>
    rw [List.nil_append, List.nil_append, splitAfter, splitAfter, if_pos separates, if_pos separates]
    rfl
  | cons lexeme tokens ih =>
    rw [List.cons_append, List.cons_append, splitAfter, splitAfter]
    split
    · rw [ih, List.cons_append]
    · exact ih (lexeme :: begun)

theorem read_semicolon (registry : Option Registry) (line : Nat) (assembler : Assembler)
    (tokens : List Lexeme) (column : Nat) :
    assembler.read registry line ⟨tokens, some ⟨column, .semicolon⟩⟩ =
      assembler.read registry line ⟨tokens, none⟩ := rfl

/-- A semicolon at the end of a line changes nothing. -/
theorem foldlM_splitAfter_semicolon (registry : Option Registry) (line column : Nat)
    (begun tokens : List Lexeme) (assembler : Assembler) :
    (splitAfter begun (tokens ++ [⟨column, .semicolon⟩])).foldlM (Assembler.read registry line)
        assembler =
      (splitAfter begun tokens).foldlM (Assembler.read registry line) assembler := by
  induction tokens generalizing begun assembler with
  | nil =>
    cases begun with
    | nil => rfl
    | cons lexeme begun =>
      have cut : splitAfter (lexeme :: begun) [⟨column, .semicolon⟩] =
          [⟨(lexeme :: begun).reverse, some ⟨column, .semicolon⟩⟩] := rfl
      have last : splitAfter (lexeme :: begun) [] = [⟨(lexeme :: begun).reverse, none⟩] := rfl
      rw [List.nil_append, cut, last, List.foldlM_cons, List.foldlM_cons, read_semicolon]
  | cons lexeme tokens ih =>
    rw [List.cons_append, splitAfter, splitAfter]
    split
    · simp only [List.foldlM_cons, ih]
    · exact ih (lexeme :: begun) assembler

/-! ### Lines -/

/-- A separator at the end of tokens starts a new chunk. -/
theorem split_lexemes {piece : Piece} (separates : piece.token.isSeparator = true)
    (pieces : List Piece) (column : Nat) (rest : List Lexeme) :
    split (Piece.lexemes column (pieces ++ [piece]) ++ rest) =
      split (Piece.lexemes column (pieces ++ [piece])) ++ split rest := by
  rw [Piece.lexemes_append, List.append_assoc]
  exact splitAfter_append separates [] _ rest

variable {registry : Option Registry} {text behind : List Char} {pieces : List Piece} {piece : Piece}

/-- What stands behind a separator may as well stand on the next line. -/
theorem foldLines_cut (splits : Splits (text ++ behind) (pieces ++ [piece]) behind)
    (separates : piece.token.isSeparator = true) (assembler : Assembler) (line : Nat)
    (rest : List (List Char)) :
    Alike Assembler.Matches
      (foldLines (Assembler.read registry) assembler line ((text ++ behind) :: rest))
      (foldLines (Assembler.read registry) assembler line (text :: behind :: rest)) := by
  have first : Splits (text ++ behind) (pieces ++ [piece]) ([] ++ behind) := splits
  have lexed : (Lexer.ofText text).tokens = .ok (Piece.lexemes 1 (pieces ++ [piece])) :=
    Lexer.tokens_eq_ok_iff.mpr
      ⟨_, [], [], first.shorten, List.forall_mem_nil _, .inl rfl, rfl⟩
  have whole : (Lexer.ofText (text ++ behind)).tokens = _ := Lexer.tokens_pieces splits 1
  have ends := split_lexemes separates pieces 1
  have moved := Lexer.tokens_unplaced behind
    (1 + ((pieces ++ [piece]).flatMap Piece.characters).length) 1
  change Alike _ _ (Lexer.ofText behind).tokens at moved
  rw [foldLines, foldLines, foldLine_of_tokens lexed]
  generalize Lexer.tokens ⟨behind, _⟩ = shifted at whole moved
  generalize later : (Lexer.ofText behind).tokens = found at moved
  cases moved with
  | error stuck other =>
    -- Neither the whole line can be read, nor the one that it goes on in.
    rw [foldLine_of_error whole]
    cases (split (Piece.lexemes 1 (pieces ++ [piece]))).foldlM (Assembler.read registry line)
        assembler with
    | error error => exact .error _ _
    | ok next =>
      change Alike _ _ (foldLine _ _ _ behind >>= _)
      rw [foldLine_of_error later]
      exact .error _ _
  | @ok shifted tokens same =>
    have cut : split (Piece.lexemes 1 (pieces ++ [piece]) ++ shifted) =
        split (Piece.lexemes 1 (pieces ++ [piece])) ++ split shifted := ends shifted
    have chunks : (split shifted).map unplaced = (split tokens).map unplaced := by
      rw [split, split, map_unplaced_splitAfter, map_unplaced_splitAfter, same]
    rw [foldLine_of_tokens whole, cut, List.foldlM_append, bind_assoc]
    refine .after _ fun next => ?_
    rw [foldLines, foldLine_of_tokens later]
    refine (foldlM_alike rfl chunks line (line + 1)).bind fun _ _ alike => ?_
    exact foldLines_alike alike (line + 1) (line + 1 + 1) rest

/-- A line that ends in a semicolon is read like the line in front of it. -/
theorem foldLine_semicolon {front last : List Char} {gap : List Char}
    (same : front = last.reverse) (splits : Splits front pieces gap) (blanks : IsBlanks gap)
    (assembler : Assembler) (line : Nat) :
    foldLine (Assembler.read registry) assembler line (front ++ [';']) =
      foldLine (Assembler.read registry) assembler line (Text.endLine last) := by
  obtain ⟨stop, stops, -, display, alone⟩ := @Token.exists_stop .semicolon rfl
  cases display
  have ended := splits.ended blanks stops alone []
  rw [List.append_nil] at ended
  have whole : (Lexer.ofText (front ++ [';'])).tokens = .ok _ :=
    Lexer.tokens_eq_ok_iff.mpr ⟨_, [], [], ended, List.forall_mem_nil _, .inl rfl, rfl⟩
  rw [← List.append_nil gap] at splits
  have unended : (Lexer.ofText last.reverse).tokens = .ok (Piece.lexemes 1 pieces) := by
    rw [← same]
    exact Lexer.tokens_eq_ok_iff.mpr ⟨_, _, _, splits, blanks, .inl rfl, rfl⟩
  rw [foldLine_of_tokens whole, foldLine_of_tokens (Lexer.tokens_endLine unended),
    Piece.lexemes_append]
  exact foldlM_splitAfter_semicolon registry line _ [] _ assembler

end Chunk

/-! ### Sources -/

def commands? (registry : Option Registry) (source : String) : Option (List Command) :=
  (compile registry source).toOption.map fun block => block.map Statement.command

section Sources

variable {registry : Option Registry}

theorem commands?_of_lines {source other : String} {before lines lines' : List (List Char)}
    (same : Text.lines source.toList = before ++ lines)
    (same' : Text.lines other.toList = before ++ lines')
    (alike : ∀ assembler line, Alike Assembler.Matches
      (Chunk.foldLines (Assembler.read registry) assembler line lines)
      (Chunk.foldLines (Assembler.read registry) assembler line lines')) :
    commands? registry source = commands? registry other := by
  refine Alike.toOption_eq ?_
  unfold compile
  dsimp only
  rw [same, same', Chunk.foldLines_append, Chunk.foldLines_append, bind_assoc, bind_assoc]
  refine .after _ fun assembler => ?_
  refine (alike assembler _).bind fun first second agree => (Assembler.finish_alike agree).imp ?_
  intro block block' equal
  have commands : Statement.command ∘ Statement.unplaced = Statement.command := rfl
  rw [← commands, ← List.map_map, equal, List.map_map]

theorem whole_of_starts {first : String} (starts : first = "" ∨ ∃ lead, first = lead ++ "\n") :
    first.toList = [] ∨ ∃ lead, first.toList = lead ++ ['\n'] := by
  rcases starts with rfl | ⟨lead, rfl⟩
  · exact .inl rfl
  · exact .inr ⟨lead.toList, String.toList_append⟩

theorem lines_broken {first line : String} (starts : first = "" ∨ ∃ lead, first = lead ++ "\n")
    (oneLine : '\n' ∉ line.toList) (rest : String) :
    Text.lines (first ++ line ++ "\n" ++ rest).toList =
      Text.lines first.toList ++ Text.endLine line.toList.reverse :: Text.lines rest.toList := by
  rw [String.toList_append, String.toList_append, String.toList_append, List.append_assoc,
    List.append_assoc, Text.lines_append (whole_of_starts starts)]
  exact congrArg _ (Text.lines_append_newline oneLine _)

/-- Behind a separator a source may go on in a new line. -/
theorem commands?_cut {first line : String} (starts : first = "" ∨ ∃ lead, first = lead ++ "\n")
    (oneLine : '\n' ∉ line.toList) {front : List Char} {stop : Char} {separator : Token}
    (ends : line.toList = front ++ [stop]) (separates : separator.isSeparator = true)
    (display : separator.display.toList = [stop]) {pieces : List Piece} {gap : List Char}
    (splits : Splits front pieces gap) (blanks : IsBlanks gap) (rest : String) :
    commands? registry (first ++ line ++ rest) =
      commands? registry (first ++ line ++ "\n" ++ rest) := by
  obtain ⟨_, stops, solid, display', alone⟩ := Token.exists_stop separates
  cases display.symm.trans display'
  have last : line.toList.reverse.head? ≠ some '\r' := by
    rw [ends, List.reverse_append]
    exact fun same => solid (Option.some.inj same)
  have ended : Text.endLine line.toList.reverse = line.toList := by
    have kept := Text.endLine_append last []
    rw [List.nil_append, List.reverse_reverse] at kept
    exact kept.trans (List.append_nil _)
  have broken := lines_broken starts oneLine rest
  rw [ended] at broken
  have unbroken : Text.lines (first ++ line ++ rest).toList =
      Text.lines first.toList ++ Text.lines (line.toList ++ rest.toList) := by
    rw [String.toList_append, String.toList_append, List.append_assoc,
      Text.lines_append (whole_of_starts starts)]
  rw [Text.lines_begun oneLine (by simp [ends]) last] at unbroken
  refine commands?_of_lines unbroken broken fun assembler number => ?_
  cases Text.lines rest.toList with
  | nil => exact Chunk.foldLines_alike rfl number number _
  | cons next others =>
    have goesOn := splits.ended blanks stops alone next
    rw [← ends] at goesOn
    exact Chunk.foldLines_cut goesOn separates assembler number others

/-- A semicolon stands for the end of a line. -/
theorem commands?_ended {first line : String} (starts : first = "" ∨ ∃ lead, first = lead ++ "\n")
    (oneLine : '\n' ∉ line.toList) {pieces : List Piece} {gap : List Char}
    (splits : Splits line.toList pieces gap) (blanks : IsBlanks gap) (rest : String) :
    commands? registry (first ++ line ++ ";" ++ rest) =
      commands? registry (first ++ line ++ "\n" ++ rest) := by
  have semicolon : (line ++ ";").toList = line.toList ++ [';'] := String.toList_append
  have oneLine' : '\n' ∉ (line ++ ";").toList := by
    rw [semicolon, List.mem_append, not_or]
    exact ⟨oneLine, by decide⟩
  have ended : Text.endLine (line ++ ";").toList.reverse = line.toList ++ [';'] := by
    rw [semicolon, List.reverse_append]
    simp [Text.endLine]
  have separates : Token.semicolon.isSeparator = true := rfl
  have assoc : first ++ line ++ ";" = first ++ (line ++ ";") := String.append_assoc
  -- The line end goes in behind the semicolon, which is idle then.
  rw [assoc, commands?_cut starts oneLine' semicolon separates rfl splits blanks]
  have marked := lines_broken starts oneLine' rest
  rw [ended] at marked
  refine commands?_of_lines marked (lines_broken starts oneLine rest) fun assembler number => ?_
  rw [Chunk.foldLines, Chunk.foldLines,
    Chunk.foldLine_semicolon (List.reverse_reverse _).symm splits blanks]
  refine .after _ fun next => ?_
  exact Chunk.foldLines_alike rfl (number + 1) (number + 1) _

/-- Behind a line of lexemes and blanks, without a comment, a semicolon and a line end mean the same;
and behind a separator a line end means nothing. -/
theorem compile_line_break (registry : Option Registry) (first line rest : String)
    (starts : first = "" ∨ ∃ lead, first = lead ++ "\n") (oneLine : '\n' ∉ line.toList) :
    (∀ pieces gap, Splits line.toList pieces gap → IsBlanks gap →
      commands? registry (first ++ line ++ ";" ++ rest) =
        commands? registry (first ++ line ++ "\n" ++ rest)) ∧
    (∀ pieces piece behind, Splits (line.toList ++ behind) (pieces ++ [piece]) behind →
      piece.token.isSeparator = true →
      commands? registry (first ++ line ++ rest) =
        commands? registry (first ++ line ++ "\n" ++ rest)) := by
  refine ⟨fun pieces gap splits blanks => ?_, fun pieces piece behind splits separates => ?_⟩
  · exact commands?_ended starts oneLine splits blanks rest
  · obtain ⟨front, stop, ends, display, splits, blanks⟩ := splits.exists_stop separates
    exact commands?_cut starts oneLine ends separates display splits blanks rest

theorem compile_line_break_clause :
    (commands? none "ok = 1\nif ok \x7b\n ok = 0 \x7d").isSome = true ∧
      commands? none "ok = 1\nif ok \x7b; ok = 0 \x7d" =
        commands? none "ok = 1\nif ok \x7b\n ok = 0 \x7d" ∧
      commands? none "ok = 1\nif ok \x7b ok = 0 \x7d" =
        commands? none "ok = 1\nif ok \x7b\n ok = 0 \x7d" := by
  have none_blank : IsBlanks [] := List.forall_mem_nil _
  have one_blank : IsBlanks [' '] := List.all_eq_true.mp rfl
  have header : Splits "if ok \x7b".toList
      ([⟨[], ['i', 'f'], .ifKeyword⟩, ⟨[' '], ['o', 'k'], .ident "ok"⟩] ++
        [⟨[' '], ['\x7b'], .openBrace⟩]) [] :=
    @Splits.cons ⟨[], ['i', 'f'], .ifKeyword⟩ _ _ _ none_blank (.of_read rfl)
      (@Splits.cons ⟨[' '], ['o', 'k'], .ident "ok"⟩ _ _ _ one_blank (.of_read rfl)
        (@Splits.cons ⟨[' '], ['\x7b'], .openBrace⟩ _ _ _ one_blank (.of_read rfl) (.nil [])))
  have broken := compile_line_break none "ok = 1\n" "if ok \x7b" " ok = 0 \x7d"
    (.inr ⟨"ok = 1", rfl⟩) (by decide)
  refine ⟨by decide +kernel, ?_, ?_⟩
  · exact broken.1 _ [] header none_blank
  · exact broken.2 _ _ [] header rfl

end Sources

end EventScript
