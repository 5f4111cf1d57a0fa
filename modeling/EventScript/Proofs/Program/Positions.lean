import EventScript.Proofs.Program.Refusals
import EventScript.Proofs.Token.Pieces

/-!
# Positions of errors

An error of a compilation names a line of the source, and on that line the place of a token or of a
character that starts none.
-/

namespace EventScript

namespace ScriptError

def line? : ScriptError → Option Nat
  | lexical line .. | grammar line .. | emptyExpression line | fault _ line _ => some line
  | _ => none

/-- Whether the column of an error is that of a token of the text, or of the character where its
tokens end. -/
inductive PointsInto (text : List Char) : ScriptError → Prop where
  | character {line : Nat} {pieces : List Piece} {gap : List Char} {c : Char}
      {behind : List Char} :
      Splits text pieces (gap ++ c :: behind) → IsBlanks gap →
      Text.isBlank c = false → c ≠ '#' →
      (∀ front token, front <+: c :: behind → ¬ Token.Spells front token) →
      PointsInto text (.lexical line (1 + (pieces.flatMap Piece.characters ++ gap).length)
        (Token.startError c))
  | token {line : Nat} {before : List Piece} {piece : Piece} {behind : List Char}
      {cause : GrammarError} :
      Splits text (before ++ [piece]) behind →
      PointsInto text
        (.grammar line (1 + (before.flatMap Piece.characters ++ piece.gap).length) cause)
  | empty {line : Nat} : PointsInto text (.emptyExpression line)

variable {text : List Char} {line column : Nat}

theorem PointsInto.of_tokens_error {cause : LexicalError}
    (stuck : (Lexer.ofText text).tokens = .error (column, cause)) :
    PointsInto text (.lexical line column cause) := by
  have reads := (Lexer.ofText text).reads_tokens
  rw [stuck] at reads
  cases reads with
  | stuck splits blanks visible noComment none => exact .character splits blanks visible noComment none

theorem PointsInto.of_mem_tokens {tokens : List Lexeme}
    (lexed : (Lexer.ofText text).tokens = .ok tokens)
    (member : column ∈ tokens.map Lexeme.column) (cause : GrammarError) :
    PointsInto text (.grammar line column cause) := by
  have reads := (Lexer.ofText text).reads_tokens
  rw [lexed] at reads
  cases reads with
  | whole splits _ _ =>
    obtain ⟨lexeme, inside, rfl⟩ := List.mem_map.mp member
    obtain ⟨before, piece, behind, splits, rfl⟩ := splits.exists_front lexeme inside
    exact .token splits

end ScriptError

/-! ### Errors of chunks -/

theorem callColumn?_mem {name : String} {tokens : List Lexeme} {column : Nat}
    (found : callColumn? name tokens = some column) : column ∈ tokens.map Lexeme.column := by
  induction tokens using callColumn?.induct name with
  | case1 first next rest =>
    rw [callColumn?, if_pos rfl] at found
    cases found
    exact List.mem_cons_self
  | case2 first word next rest different ih =>
    rw [callColumn?, if_neg different] at found
    exact List.mem_cons_of_mem _ (ih found)
  | case3 lexeme rest noCall ih =>
    rw [callColumn?] at found
    · exact List.mem_cons_of_mem _ (ih found)
    · exact noCall
  | case4 => cases found

theorem callColumn_mem (name : String) {tokens : List Lexeme} (nonempty : tokens ≠ []) :
    callColumn name tokens ∈ tokens.map Lexeme.column := by
  obtain ⟨first, rest, rfl⟩ := List.exists_cons_of_ne_nil nonempty
  unfold callColumn
  cases found : callColumn? name (first :: rest) with
  | some column => exact callColumn?_mem found
  | none => exact List.mem_cons_self

theorem Postfix.checked_error_column {registry : Option Registry} {line : Nat} {bare : Bool}
    {tokens : List Lexeme} {error : ScriptError}
    (h : checked registry line bare tokens = .error error) :
    error = .emptyExpression line ∨
      ∃ column cause, error = .grammar line column cause ∧
        column ∈ tokens.map Lexeme.column := by
  rcases checked_error h with ⟨_ | ⟨column, cause⟩, refused, rfl⟩ | ⟨_, code, misuse, -, converted, -, rfl⟩
  · exact .inl rfl
  · exact .inr ⟨column, cause, rfl, column_mem_of_ofLexemes refused⟩
  · refine .inr ⟨_, _, rfl, callColumn_mem misuse.name ?_⟩
    rintro rfl
    cases converted

theorem Assembler.read_error_column {registry : Option Registry} {line : Nat}
    {assembler : Assembler} {chunk : Chunk} {error : ScriptError}
    (h : assembler.read registry line chunk = .error error) :
    error = .emptyExpression line ∨
      ∃ column cause, error = .grammar line column cause ∧
        column ∈ chunk.lexemes.map Lexeme.column := by
  rcases read_error h with ⟨column, cause, rfl, member, -⟩ | ⟨bare, expression, holds, refused⟩
  · exact .inr ⟨column, cause, rfl, member⟩
  · rcases Postfix.checked_error_column refused with rfl | ⟨column, cause, rfl, member⟩
    · exact .inl rfl
    · exact .inr ⟨column, cause, rfl, (holds.sublist.map Lexeme.column).subset member⟩

theorem Chunk.foldLine_error_placed {registry : Option Registry} {assembler : Assembler}
    {line : Nat} {text : List Char} {error : ScriptError}
    (h : foldLine (Assembler.read registry) assembler line text = .error error) :
    error.isCompileError = true ∧ error.line? = some line ∧ error.PointsInto text := by
  rcases foldLine_error h with ⟨column, cause, stuck, rfl⟩ | ⟨tokens, chunk, _, lexed, member, refused⟩
  · exact ⟨rfl, rfl, .of_tokens_error stuck⟩
  · rcases Assembler.read_error_column refused with rfl | ⟨column, cause, rfl, inside⟩
    · exact ⟨rfl, rfl, .empty⟩
    · refine ⟨rfl, rfl, .of_mem_tokens lexed ?_ cause⟩
      obtain ⟨lexeme, among, rfl⟩ := List.mem_map.mp inside
      exact List.mem_map_of_mem (mem_of_mem_split member among)

/-! ### Positions of conditionals -/

namespace Assembler

/-- Whether the conditionals that are open, or were closed last, have their `if` at such lines and
columns. -/
def Marks (place : Nat → Nat → Prop) (assembler : Assembler) : Prop :=
  (∀ conditional ∈ assembler.opened, place conditional.line conditional.column) ∧
    ∀ conditional ∈ assembler.closed, place conditional.line conditional.column

variable {place : Nat → Nat → Prop} {assembler next : Assembler}

@[simp] theorem opened_patchBranch (assembler : Assembler) (conditional : Conditional) :
    (assembler.patchBranch conditional).opened = assembler.opened := by
  unfold patchBranch
  split <;> rfl

@[simp] theorem closed_patchBranch (assembler : Assembler) (conditional : Conditional) :
    (assembler.patchBranch conditional).closed = assembler.closed := by
  unfold patchBranch
  split <;> rfl

@[simp] theorem opened_settle (assembler : Assembler) :
    assembler.settle.opened = assembler.opened := by
  unfold settle
  split
  · rfl
  · exact opened_patchBranch _ _

@[simp] theorem closed_settle (assembler : Assembler) : assembler.settle.closed = none := by
  unfold settle
  split
  · assumption
  · exact closed_patchBranch _ _

@[simp] theorem opened_leave (assembler : Assembler) (line : Nat) (conditional : Conditional) :
    (assembler.leave line conditional).opened = assembler.opened := opened_patchBranch _ _

@[simp] theorem closed_leave (assembler : Assembler) (line : Nat) (conditional : Conditional) :
    (assembler.leave line conditional).closed = none := closed_patchBranch _ _

theorem Marks.settle (marks : assembler.Marks place) : assembler.settle.Marks place := by
  refine ⟨?_, ?_⟩
  · rw [opened_settle]
    exact marks.1
  · rw [closed_settle]
    nofun

theorem Marks.separate (marks : assembler.Marks place) {line : Nat} {terminator : Option Lexeme}
    (h : assembler.separate line terminator = .ok next) : next.Marks place := by
  unfold Assembler.separate at h
  split at h
  · split at h
    · cases h
    · next conditional opened same =>
      cases h
      have inner := marks.1
      rw [same] at inner
      refine ⟨fun other member => inner other (List.mem_cons_of_mem _ member), ?_⟩
      rintro _ ⟨⟩
      exact inner conditional List.mem_cons_self
  · cases h
  · cases h
    exact marks

theorem continued_ok {line column : Nat} {keyword : Token} {conditional : Conditional}
    (h : assembler.continued line column keyword = .ok conditional) :
    assembler.closed = some conditional := by
  unfold continued at h
  split at h
  · cases h
  · split at h
    · cases h
    · cases h
      assumption

/-- A clause that goes on with a conditional is marked where the conditional is. -/
theorem Marks.entered (marks : assembler.Marks place) {line column : Nat} {keyword : Token}
    {before after : Conditional} {left : Assembler}
    (h : assembler.continued line column keyword = .ok before)
    (opened : next.opened = after :: left.opened) (kept : left.opened = assembler.opened)
    (same : after.line = before.line ∧ after.column = before.column) (closed : next.closed = none) :
    next.Marks place := by
  refine ⟨?_, ?_⟩
  · rw [opened, kept]
    intro conditional member
    rcases List.mem_cons.mp member with rfl | member
    · rw [same.1, same.2]
      exact marks.2 before (continued_ok h)
    · exact marks.1 conditional member
  · rw [closed]
    nofun

theorem Marks.read (marks : assembler.Marks place) {registry : Option Registry} {line : Nat}
    {chunk : Chunk}
    (opens : ∀ column header, chunk.tokens = ⟨column, .ifKeyword⟩ :: header → place line column)
    (h : assembler.read registry line chunk = .ok next) : next.Marks place := by
  have tokens := chunk.tokens_of_form
  unfold Assembler.read at h
  split at h
  · next form =>
    rw [form] at tokens
    obtain ⟨-, -, h⟩ := bind_ok h
    obtain ⟨condition, -, h⟩ := bind_ok h
    cases h
    refine ⟨?_, ?_⟩
    · intro conditional member
      rcases List.mem_cons.mp member with rfl | member
      · exact opens _ _ tokens
      · exact marks.settle.1 conditional member
    · exact marks.settle.2
  · obtain ⟨conditional, goesOn, h⟩ := bind_ok h
    obtain ⟨-, -, h⟩ := bind_ok h
    obtain ⟨condition, -, h⟩ := bind_ok h
    cases h
    exact marks.entered goesOn rfl (opened_leave ..) ⟨rfl, rfl⟩ (closed_leave ..)
  · obtain ⟨conditional, goesOn, h⟩ := bind_ok h
    obtain ⟨-, -, h⟩ := bind_ok h
    obtain ⟨-, -, h⟩ := bind_ok h
    cases h
    exact marks.entered goesOn rfl (opened_leave ..) ⟨rfl, rfl⟩ (closed_leave ..)
  · split at h
    · exact marks.settle.separate h
    · exact marks.separate h
  · obtain ⟨step, -, h⟩ := bind_ok h
    have emitted (line : Nat) (command : Command) : (assembler.settle.emit line command).Marks place :=
      marks.settle
    exact (emitted _ _).separate h

end Assembler

def OpensAt (lines : List (List Char)) (line column : Nat) : Prop :=
  ∃ before text after tokens, lines = before ++ text :: after ∧ line = before.length + 1 ∧
    (Lexer.ofText text).tokens = .ok tokens ∧ ⟨column, .ifKeyword⟩ ∈ tokens

theorem Chunk.foldLines_marks {registry : Option Registry} {lines : List (List Char)}
    {assembler : Assembler}
    (h : foldLines (Assembler.read registry) .start 1 lines = .ok assembler) :
    assembler.Marks (OpensAt lines) := by
  have start : Assembler.start.Marks (OpensAt lines) := ⟨nofun, nofun⟩
  refine foldLines_keeps ?_ start h
  intro before text after tokens same lexed chunk member state next marks read
  refine marks.read (fun column header opening => ?_) read
  have inside : ⟨column, .ifKeyword⟩ ∈ chunk.lexemes := by
    refine List.mem_append_left _ ?_
    rw [opening]
    exact List.mem_cons_self
  exact ⟨before, text, after, tokens, same, Nat.add_comm 1 _, lexed, mem_of_mem_split member inside⟩

/-! ### Sources -/

/-- A source that does not compile is refused with an error of one of its lines, which points to a
token of that line or to the character where its tokens end: the line that reading stops on, or, if
all lines can be read, the line of an `if` that opens a clause which is never closed. -/
theorem compile_error_placed {registry : Option Registry} {source : String} {error : ScriptError}
    (failed : compile registry source = .error error) :
    error.isCompileError = true ∧
      ∃ before text after, Text.lines source.toList = before ++ text :: after ∧
        error.line? = some (before.length + 1) ∧ error.PointsInto text ∧
        ((∃ assembler, Chunk.foldLines (Assembler.read registry) .start 1 before = .ok assembler ∧
            Chunk.foldLine (Assembler.read registry) assembler (before.length + 1) text =
              .error error) ∨
          ∃ assembler tokens column,
            Chunk.foldLines (Assembler.read registry) .start 1 (Text.lines source.toList) =
              .ok assembler ∧
            (Lexer.ofText text).tokens = .ok tokens ∧ ⟨column, .ifKeyword⟩ ∈ tokens ∧
            error = .grammar (before.length + 1) column .unclosedBrace) := by
  rcases bind_error failed with stopped | ⟨assembler, read, unfinished⟩
  · obtain ⟨before, text, after, assembler, same, read, stopped⟩ := Chunk.foldLines_error stopped
    rw [Nat.add_comm] at stopped
    obtain ⟨compiles, line, points⟩ := Chunk.foldLine_error_placed stopped
    exact ⟨compiles, before, text, after, same, line, points, .inl ⟨assembler, read, stopped⟩⟩
  · have marks := (Chunk.foldLines_marks read).1
    unfold Assembler.finish at unfinished
    split at unfinished
    · cases unfinished
    · next conditional opened open' =>
      cases unfinished
      rw [open'] at marks
      obtain ⟨before, text, after, tokens, same, line, lexed, member⟩ :=
        marks conditional List.mem_cons_self
      rw [line]
      refine ⟨rfl, before, text, after, same, rfl, ?_, ?_⟩
      · exact .of_mem_tokens lexed (List.mem_map_of_mem member) _
      · exact .inr ⟨assembler, tokens, conditional.column, read, lexed, member, rfl⟩

theorem compile_error_placed_shield :
    let source := "shield = 3\nif shield > (2 \x7b"
    ∃ error, compile none source = .error error ∧ error.isCompileError = true ∧
      ∃ before text after, Text.lines source.toList = before ++ text :: after ∧
        error.line? = some (before.length + 1) ∧ error.PointsInto text := by
  intro source
  have failed : compile none source = .error (.grammar 2 13 .unclosedParen) :=
    eq_error_of_error? (by decide +kernel)
  obtain ⟨compiles, before, text, after, lines, line, points, -⟩ := compile_error_placed failed
  exact ⟨_, failed, compiles, before, text, after, lines, line, points⟩

end EventScript
