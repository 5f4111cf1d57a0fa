import EventScript.Compile
import EventScript.Proofs.Expression.Columns
import EventScript.Proofs.Program.Joining
import EventScript.Proofs.Token.Cuts

/-!
# Scripts without places

Whether a script compiles, and to which commands, does not depend on the lines and columns of its
tokens.
-/

namespace EventScript

def Lexeme.unplaced (lexeme : Lexeme) : Lexeme := lexeme.relabel fun _ => 0

theorem exists_of_map_unplaced {tokens rest : List Lexeme} {column : Nat} {token : Token}
    (same : tokens.map Lexeme.unplaced = ⟨column, token⟩ :: rest) :
    ∃ place behind, tokens = ⟨place, token⟩ :: behind ∧ behind.map Lexeme.unplaced = rest := by
  obtain ⟨⟨place, other⟩, behind, rfl, first, rfl⟩ := List.map_eq_cons_iff.mp same
  cases first
  exact ⟨place, behind, rfl, rfl⟩

theorem Piece.map_unplaced_lexemes (column : Nat) (pieces : List Piece) :
    (Piece.lexemes column pieces).map Lexeme.unplaced = pieces.map fun piece => ⟨0, piece.token⟩ := by
  induction pieces generalizing column with
  | nil => rfl
  | cons piece pieces ih => exact congrArg (_ :: ·) (ih _)

theorem Lexer.tokens_unplaced (text : List Char) (column column' : Nat) :
    Alike (fun tokens others => tokens.map Lexeme.unplaced = others.map Lexeme.unplaced)
      (tokens ⟨text, column⟩) (tokens ⟨text, column'⟩) := by
  have elsewhere {place other : Nat} {lexemes : List Lexeme}
      (lexed : tokens ⟨text, place⟩ = .ok lexemes) : ∃ pieces, lexemes = Piece.lexemes place pieces ∧
        tokens ⟨text, other⟩ = .ok (Piece.lexemes other pieces) := by
    obtain ⟨pieces, gap, comment, splits, blanks, ends, rfl⟩ := tokens_eq_ok_iff.mp lexed
    exact ⟨pieces, rfl, tokens_eq_ok_iff.mpr ⟨pieces, gap, comment, splits, blanks, ends, rfl⟩⟩
  cases first : tokens ⟨text, column⟩ with
  | ok lexemes =>
    obtain ⟨pieces, rfl, second⟩ := @elsewhere column column' _ first
    rw [second]
    refine .ok ?_
    rw [Piece.map_unplaced_lexemes, Piece.map_unplaced_lexemes]
  | error stuck =>
    cases second : tokens ⟨text, column'⟩ with
    | ok lexemes =>
      obtain ⟨_, -, lexed⟩ := @elsewhere column' column _ second
      rw [first] at lexed
      cases lexed
    | error other => exact .error stuck other

def Statement.unplaced (statement : Statement) : Statement := { statement with line := 0 }

def Conditional.unplaced (conditional : Conditional) : Conditional :=
  { conditional with line := 0, column := 0 }

/-! ### Chunks -/

namespace Chunk

def unplaced (chunk : Chunk) : Chunk :=
  ⟨chunk.tokens.map Lexeme.unplaced, chunk.terminator.map Lexeme.unplaced⟩

def Form.unplaced : Form → Form
  | blank => blank
  | opening _ header => opening 0 (header.map Lexeme.unplaced)
  | alternative _ header => alternative 0 (header.map Lexeme.unplaced)
  | otherwise _ header => otherwise 0 (header.map Lexeme.unplaced)
  | statement tokens => statement (tokens.map Lexeme.unplaced)

theorem form_unplaced (chunk : Chunk) : chunk.unplaced.form = chunk.form.unplaced := by
  obtain ⟨tokens, terminator⟩ := chunk
  match tokens with
  | [] => rfl
  | ⟨column, token⟩ :: header => cases token <;> rfl

theorem endsIn_unplaced (chunk : Chunk) (separator : Token) :
    chunk.unplaced.endsIn separator = chunk.endsIn separator := by
  obtain ⟨tokens, terminator⟩ := chunk
  cases terminator <;> rfl

theorem map_unplaced_splitAfter (begun tokens : List Lexeme) :
    (splitAfter begun tokens).map unplaced =
      splitAfter (begun.map Lexeme.unplaced) (tokens.map Lexeme.unplaced) := by
  induction tokens generalizing begun with
  | nil =>
    cases begun with
    | nil => rfl
    | cons lexeme begun => simp [splitAfter, unplaced]
  | cons lexeme tokens ih =>
    have same : lexeme.unplaced.token = lexeme.token := rfl
    rw [List.map_cons, splitAfter, splitAfter, same]
    split
    · rw [List.map_cons, ih]
      simp [unplaced]
    · exact ih (lexeme :: begun)

end Chunk

/-! ### Expressions -/

variable (registry : Option Registry)

theorem Postfix.checked_unplaced (line : Nat) (bare : Bool) (tokens : List Lexeme) :
    Alike Eq (checked registry line bare tokens)
      (checked registry 0 bare (tokens.map Lexeme.unplaced)) := by
  refine .of_iff fun code => ?_
  have relabelled : ofLexemes (tokens.map Lexeme.unplaced) = _ := ofLexemes_relabel (fun _ => 0) tokens
  have same : ofLexemes tokens = .ok code ↔ ofLexemes (tokens.map Lexeme.unplaced) = .ok code := by
    rw [relabelled]
    constructor
    · intro converted
      rw [converted]
      rfl
    · exact mapError_ok
  rw [checked_eq_ok, checked_eq_ok, same]

namespace Chunk

theorem requireBrace_unplaced (line column : Nat) (keyword : Token) (chunk : Chunk) :
    Alike Eq (chunk.requireBrace line column keyword) (chunk.unplaced.requireBrace 0 0 keyword) := by
  unfold requireBrace
  rw [endsIn_unplaced]
  split
  · exact .ok rfl
  · exact .error _ _

theorem condition_unplaced (line column : Nat) (keyword : Token) (header : List Lexeme) :
    Alike Eq (condition registry line column keyword header)
      (condition registry 0 0 keyword (header.map Lexeme.unplaced)) := by
  unfold condition
  rw [List.isEmpty_map]
  split
  · exact .error _ _
  · exact Postfix.checked_unplaced registry line false header

theorem requireNothing_unplaced (line : Nat) (header : List Lexeme) :
    Alike Eq (requireNothing line header) (requireNothing 0 (header.map Lexeme.unplaced)) := by
  cases header with
  | nil => exact .ok rfl
  | cons lexeme header => exact .error _ _

theorem step_unplaced (line : Nat) (tokens : List Lexeme) :
    Alike Eq (step registry line tokens) (step registry 0 (tokens.map Lexeme.unplaced)) := by
  have checked (bare : Bool) (tokens : List Lexeme) (perform : Postfix → Step) :
      Alike Eq ((Postfix.checked registry line bare tokens).map perform)
        ((Postfix.checked registry 0 bare (tokens.map Lexeme.unplaced)).map perform) :=
    (Postfix.checked_unplaced registry line bare tokens).map fun _ _ => congrArg perform
  generalize found : step registry line tokens = outcome
  unfold step at found
  split at found
  · rw [← found]
    exact checked false _ _
  · rw [← found]
    exact checked false _ _
  · next column tail noAssignment =>
    rw [← found, List.map_cons]
    change Alike Eq _ (step registry 0 (⟨0, .globalKeyword⟩ :: tail.map Lexeme.unplaced))
    rw [step]
    · exact .error _ _
    · intro place target sign value same
      obtain ⟨place, _, rfl, behind⟩ := exists_of_map_unplaced same
      obtain ⟨sign, value, rfl, -⟩ := exists_of_map_unplaced behind
      exact noAssignment place target sign value rfl
  · next noAssignment noGlobalAssignment noGlobal =>
    rw [← found, step]
    · exact checked true _ _
    · intro place target sign value same
      obtain ⟨place, _, rfl, behind⟩ := exists_of_map_unplaced same
      obtain ⟨sign, value, rfl, -⟩ := exists_of_map_unplaced behind
      exact noAssignment place target sign value rfl
    · intro keyword place target sign value same
      obtain ⟨keyword, _, rfl, behind⟩ := exists_of_map_unplaced same
      obtain ⟨place, _, rfl, later⟩ := exists_of_map_unplaced behind
      obtain ⟨sign, value, rfl, -⟩ := exists_of_map_unplaced later
      exact noGlobalAssignment keyword place target sign value rfl
    · intro keyword rest same
      obtain ⟨keyword, rest, rfl, -⟩ := exists_of_map_unplaced same
      exact noGlobal keyword rest rfl

end Chunk

/-! ### Assemblers -/

theorem Block.map_unplaced_redirect (target : Nat) (block : Block) (index : Nat) :
    (block.redirect target index).map Statement.unplaced =
      Block.redirect target (block.map Statement.unplaced) index := by
  unfold Block.redirect
  induction block generalizing index with
  | nil => rw [List.modify_nil, List.map_nil, List.modify_nil]
  | cons first rest ih =>
    cases index with
    | zero => rw [List.modify_zero_cons, List.map_cons, List.map_cons, List.modify_zero_cons]; rfl
    | succ index =>
      rw [List.modify_succ_cons, List.map_cons, ih, List.map_cons, List.modify_succ_cons]

theorem Block.map_unplaced_foldl_redirect (target : Nat) (jumps : List Nat) (block : Block) :
    (jumps.foldl (Block.redirect target) block).map Statement.unplaced =
      jumps.foldl (Block.redirect target) (block.map Statement.unplaced) := by
  induction jumps generalizing block with
  | nil => rfl
  | cons index jumps ih =>
    rw [List.foldl_cons, ih, Block.map_unplaced_redirect, List.foldl_cons]

namespace Assembler

def unplaced (assembler : Assembler) : Assembler where
  statements := assembler.statements.map Statement.unplaced
  opened := assembler.opened.map Conditional.unplaced
  closed := assembler.closed.map Conditional.unplaced

variable (assembler : Assembler)

theorem length_unplaced :
    assembler.unplaced.statements.length = assembler.statements.length := List.length_map _

@[simp] theorem unplaced_emit (line : Nat) (command : Command) :
    (assembler.emit line command).unplaced = assembler.unplaced.emit 0 command := by
  simp [unplaced, emit, Statement.unplaced]

@[simp] theorem unplaced_patchBranch (conditional : Conditional) :
    (assembler.patchBranch conditional).unplaced =
      assembler.unplaced.patchBranch conditional.unplaced := by
  obtain ⟨branch, jumps, hasElse, line, column⟩ := conditional
  cases branch with
  | none => rfl
  | some index =>
    simp [unplaced, patchBranch, Conditional.unplaced, Block.map_unplaced_redirect]

@[simp] theorem unplaced_settle : assembler.settle.unplaced = assembler.unplaced.settle := by
  have redirected (jumps : List Nat) (patched : Assembler) :
      unplaced
          { patched with
            statements :=
              jumps.foldl (Block.redirect patched.statements.length) patched.statements } =
        { patched.unplaced with
          statements :=
            jumps.foldl (Block.redirect patched.unplaced.statements.length)
              patched.unplaced.statements } := by
    simp [unplaced, Block.map_unplaced_foldl_redirect]
  obtain ⟨statements, opened, closed⟩ := assembler
  cases closed with
  | none => rfl
  | some conditional =>
    refine (redirected conditional.jumps (patchBranch ⟨statements, opened, none⟩ conditional)).trans ?_
    rw [unplaced_patchBranch]
    rfl

@[simp] theorem unplaced_leave (line : Nat) (conditional : Conditional) :
    (assembler.leave line conditional).unplaced =
      assembler.unplaced.leave 0 conditional.unplaced := by
  unfold leave
  rw [unplaced_patchBranch, unplaced_emit]
  rfl

@[simp] theorem unplaced_enter (line : Nat) (condition : Postfix)
    (conditional : Option Nat → Conditional) :
    (assembler.enter line condition conditional).unplaced =
      assembler.unplaced.enter 0 condition fun branch => (conditional branch).unplaced := by
  simp [unplaced, enter, emit, Statement.unplaced]

/-! ### Reading in other places -/

theorem continued_unplaced (line column : Nat) (keyword : Token) :
    Alike (fun conditional other => conditional.unplaced = other)
      (assembler.continued line column keyword) (assembler.unplaced.continued 0 0 keyword) := by
  obtain ⟨statements, opened, closed⟩ := assembler
  cases closed with
  | none => exact .error _ _
  | some conditional =>
    obtain ⟨branch, jumps, hasElse, line, column⟩ := conditional
    cases hasElse with
    | false => exact .ok rfl
    | true => exact .error _ _

theorem separate_unplaced (line : Nat) (terminator : Option Lexeme) :
    Alike (fun next other => next.unplaced = other) (assembler.separate line terminator)
      (assembler.unplaced.separate 0 (terminator.map Lexeme.unplaced)) := by
  obtain ⟨statements, opened, closed⟩ := assembler
  match terminator with
  | none => exact .ok rfl
  | some ⟨column, token⟩ =>
    cases token
    case closeBrace =>
      cases opened with
      | nil => exact .error _ _
      | cons conditional opened => exact .ok rfl
    case openBrace => exact .error _ _
    all_goals exact .ok rfl

/-- Reading a chunk does the same wherever it stands. -/
theorem read_unplaced (registry : Option Registry) (line : Nat) (chunk : Chunk) :
    Alike (fun next other => next.unplaced = other) (assembler.read registry line chunk)
      (assembler.unplaced.read registry 0 chunk.unplaced) := by
  unfold read
  rw [chunk.form_unplaced]
  cases chunk.form with
  | opening column header =>
    refine (chunk.requireBrace_unplaced line column .ifKeyword).bind fun _ _ _ => ?_
    refine (Chunk.condition_unplaced registry line column .ifKeyword header).bind ?_
    rintro condition _ rfl
    refine .ok ?_
    rw [unplaced_enter, unplaced_settle]
    rfl
  | alternative column header =>
    refine (assembler.continued_unplaced line column .elseifKeyword).bind ?_
    rintro conditional _ rfl
    refine (chunk.requireBrace_unplaced line column .elseifKeyword).bind fun _ _ _ => ?_
    refine (Chunk.condition_unplaced registry line column .elseifKeyword header).bind ?_
    rintro condition _ rfl
    refine .ok ?_
    rw [unplaced_enter, unplaced_leave, assembler.length_unplaced]
    rfl
  | otherwise column header =>
    refine (assembler.continued_unplaced line column .elseKeyword).bind ?_
    rintro conditional _ rfl
    refine (Chunk.requireNothing_unplaced line header).bind fun _ _ _ => ?_
    refine (chunk.requireBrace_unplaced line column .elseKeyword).bind fun _ _ _ => ?_
    refine .ok ?_
    rw [assembler.length_unplaced, ← unplaced_leave]
    rfl
  | blank =>
    dsimp only [Chunk.Form.unplaced]
    rw [chunk.endsIn_unplaced]
    split
    · rw [← unplaced_settle]
      exact separate_unplaced _ line chunk.terminator
    · exact separate_unplaced _ line chunk.terminator
  | statement tokens =>
    refine (Chunk.step_unplaced registry line tokens).bind ?_
    rintro step _ rfl
    rw [← unplaced_settle, ← unplaced_emit]
    exact separate_unplaced _ line chunk.terminator

theorem finish_unplaced :
    Alike (fun block other => block.map Statement.unplaced = other) assembler.finish
      assembler.unplaced.finish := by
  have settled := congrArg statements assembler.unplaced_settle
  obtain ⟨statements, opened, closed⟩ := assembler
  cases opened with
  | nil => exact .ok settled
  | cons conditional opened => exact .error _ _

end Assembler

/-! ### Lines further down -/

/-- Whether two assemblers differ at most in places. -/
def Assembler.Matches (first second : Assembler) : Prop := first.unplaced = second.unplaced

namespace Chunk

variable {registry : Option Registry} {first second : Assembler}

theorem foldlM_unplaced (registry : Option Registry) (line : Nat) (chunks : List Chunk)
    (assembler : Assembler) :
    Alike (fun next other => next.unplaced = other)
      (chunks.foldlM (Assembler.read registry line) assembler)
      ((chunks.map unplaced).foldlM (Assembler.read registry 0) assembler.unplaced) := by
  induction chunks generalizing assembler with
  | nil => exact .ok rfl
  | cons chunk chunks ih =>
    rw [List.map_cons, List.foldlM_cons, List.foldlM_cons]
    refine (assembler.read_unplaced registry line chunk).bind ?_
    rintro next _ rfl
    exact ih next

theorem foldlM_alike (alike : first.Matches second) {chunks others : List Chunk}
    (same : chunks.map unplaced = others.map unplaced) (line line' : Nat) :
    Alike Assembler.Matches (chunks.foldlM (Assembler.read registry line) first)
      (others.foldlM (Assembler.read registry line') second) := by
  have walked := foldlM_unplaced registry line' others second
  rw [← same, ← alike] at walked
  exact (foldlM_unplaced registry line chunks first).join walked

theorem foldLines_alike (alike : first.Matches second) (line line' : Nat)
    (lines : List (List Char)) :
    Alike Assembler.Matches (foldLines (Assembler.read registry) first line lines)
      (foldLines (Assembler.read registry) second line' lines) := by
  induction lines generalizing first second line line' with
  | nil => exact .ok alike
  | cons text rest ih =>
    have read : Alike Assembler.Matches (foldLine (Assembler.read registry) first line text)
        (foldLine (Assembler.read registry) second line' text) := by
      unfold foldLine
      cases (Lexer.ofText text).tokens with
      | error error => exact .error _ _
      | ok tokens => exact foldlM_alike alike rfl line line'
    exact read.bind fun _ _ alike => ih alike (line + 1) (line' + 1)

end Chunk

theorem Assembler.finish_alike {first second : Assembler} (alike : first.Matches second) :
    Alike
      (fun block other => block.map Statement.unplaced = other.map Statement.unplaced)
      first.finish second.finish := by
  have finished := second.finish_unplaced
  rw [← alike] at finished
  exact first.finish_unplaced.join finished

end EventScript
