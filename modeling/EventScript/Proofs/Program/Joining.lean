import EventScript.Proofs.Machine.Moved
import EventScript.Proofs.Program.Assembly
import EventScript.Proofs.Text.Lines
import EventScript.Proofs.Token.LineEnds

/-!
# Joined sources

Two sources with a newline between them spell the program of the first and, behind it, that of the
second.
-/

namespace EventScript

/-! ### Programs behind one another -/

/-- The first program and, behind it, the other one on lines `lines` further down. -/
def Program.join (first : Program) (lines : Nat) : Program → Program
  | empty => first
  | step before line action => .step (join first lines before) (line + lines) action
  | when before line condition body =>
    .when (join first lines before) (line + lines) condition (join .empty lines body)
  | choose before line condition body elseLine alternative =>
    .choose (join first lines before) (line + lines) condition (join .empty lines body)
      (elseLine + lines) (join .empty lines alternative)

theorem Program.size_join (first : Program) (lines : Nat) (program : Program) :
    (join first lines program).size = first.size + program.size := by
  induction program generalizing first with
  | empty => rfl
  | step before line action ih =>
    rw [join, size, size, ih, Nat.add_assoc]
  | when before line condition body ihBefore ihBody =>
    rw [join, size, size, ihBefore, ihBody, size]
    omega
  | choose before line condition body elseLine alternative ihBefore ihBody ihAlternative =>
    rw [join, size, size, ihBefore, ihBody, ihAlternative, size]
    omega

theorem Block.moved_append (count lines : Nat) (first second : Block) :
    Block.moved count lines (first ++ second) = first.moved count lines ++ second.moved count lines :=
  List.map_append

theorem Block.moved_cons (count lines : Nat) (statement : Statement) (block : Block) :
    Block.moved count lines (statement :: block) =
      statement.moved count lines :: block.moved count lines := rfl

/-- The statements of the program behind are moved as far as its start is. -/
theorem Program.flatten_join (first : Program) (lines : Nat) (program : Program)
    {start origin count : Nat} (moved : start + first.size = origin + count) :
    (join first lines program).flatten start =
      first.flatten start ++ (program.flatten origin).moved count lines := by
  induction program generalizing first start origin with
  | empty => exact (List.append_nil _).symm
  | step before line action ih =>
    rw [join, flatten, flatten, ih first moved, Block.moved_append, List.append_assoc]
    rfl
  | when before line condition body ihBefore ihBody =>
    have inside : start + (first.size + before.size) + 1 =
        origin + before.size + 1 + count := by omega
    have inner : (join .empty lines body).flatten (origin + before.size + 1 + count) =
        (body.flatten (origin + before.size + 1)).moved count lines :=
      ihBody .empty rfl
    have target : origin + before.size + 1 + count + body.size =
        origin + before.size + 1 + body.size + count := Nat.add_right_comm _ _ _
    simp only [join, flatten, size_join, size, Nat.zero_add, inside, inner, target,
      ihBefore first moved, Block.moved_append, Block.moved_cons, List.append_assoc]
    rfl
  | choose before line condition body elseLine alternative ihBefore ihBody ihAlternative =>
    have inside : start + (first.size + before.size) + 1 =
        origin + before.size + 1 + count := by omega
    have other : origin + before.size + 1 + count + body.size + 1 =
        origin + before.size + 1 + body.size + 1 + count := by omega
    have inner : (join .empty lines body).flatten (origin + before.size + 1 + count) =
        (body.flatten (origin + before.size + 1)).moved count lines :=
      ihBody .empty rfl
    have last : (join .empty lines alternative).flatten
        (origin + before.size + 1 + body.size + 1 + count) =
          (alternative.flatten (origin + before.size + 1 + body.size + 1)).moved count lines :=
      ihAlternative .empty rfl
    have target : origin + before.size + 1 + body.size + 1 + count + alternative.size =
        origin + before.size + 1 + body.size + 1 + alternative.size + count :=
      Nat.add_right_comm _ _ _
    simp only [join, flatten, size_join, size, Nat.zero_add, inside, other, inner, last, target,
      ihBefore first moved, Block.moved_append, Block.moved_cons, List.append_assoc,
      List.cons_append]
    rfl

/-! ### Outlines behind a program -/

namespace Chain

def behind (first : Program) (lines : Nat) : Chain → Chain
  | .first before line column => .first (first.join lines before) (line + lines) column
  | after chain line condition body elseLine =>
    .after (chain.behind first lines) (line + lines) condition (Program.empty.join lines body)
      (elseLine + lines)

/-- What the block of the last clause stands behind, if the block of the chain stands behind
`first`. -/
def inner (first : Program) : Chain → Program
  | .first .. => first
  | after .. => .empty

theorem before_behind (first : Program) (lines : Nat) (chain : Chain) :
    (chain.behind first lines).before = (chain.inner first).join lines chain.before := by
  cases chain with
  | first => rfl
  | after => rfl

theorem complete_behind (first : Program) (lines : Nat) (chain : Chain) (last : Program) :
    first.join lines (chain.complete last) =
      (chain.behind first lines).complete ((chain.inner first).join lines last) := by
  induction chain generalizing last with
  | first => rfl
  | after chain line condition body elseLine ih =>
    rw [complete, ih, Program.join, ← before_behind]
    rfl

end Chain

namespace Clause

def behind (first : Program) (lines : Nat) : Clause → Clause
  | test chain line condition => .test (chain.behind first lines) (line + lines) condition
  | otherwise chain line condition body elseLine =>
    .otherwise (chain.behind first lines) (line + lines) condition (Program.empty.join lines body)
      (elseLine + lines)

def inside (first : Program) : List Clause → Program
  | [] => first
  | _ :: _ => .empty

def allBehind (first : Program) (lines : Nat) : List Clause → List Clause
  | [] => []
  | clause :: outer => clause.behind (inside first outer) lines :: allBehind first lines outer

end Clause

/-- The second tail is what the first one is behind a program. Only a tail that can go on with
another clause has to be of the same form. -/
structure Tail.Behind (first : Program) (lines : Nat) (tail other : Tail) : Prop where
  program : other.program = first.join lines tail.program
  closed : ∀ chain line condition body, tail = .closed chain line condition body →
    other = .closed (chain.behind first lines) (line + lines) condition (Program.empty.join lines body)

theorem Tail.behind_settled (first : Program) (lines : Nat) {program other : Program}
    (same : other = first.join lines program) :
    Tail.Behind first lines (.settled program) (.settled other) :=
  ⟨same, nofun⟩

theorem Clause.close_behind (first : Program) (lines : Nat) (clause : Clause) (body : Program) :
    Tail.Behind first lines (clause.close body)
      ((clause.behind first lines).close (Program.empty.join lines body)) := by
  cases clause with
  | test chain line condition =>
    refine ⟨?_, ?_⟩
    · have last : (chain.inner first).join lines (.when chain.before line condition body) =
          .when (chain.behind first lines).before (line + lines) condition
            (Program.empty.join lines body) := by
        rw [Program.join, ← Chain.before_behind]
      have whole := chain.complete_behind first lines (.when chain.before line condition body)
      rw [last] at whole
      exact whole.symm
    · rintro _ _ _ _ ⟨⟩
      rfl
  | otherwise chain line condition before elseLine =>
    refine ⟨?_, nofun⟩
    have last : (chain.inner first).join lines
          (.choose chain.before line condition before elseLine body) =
        .choose (chain.behind first lines).before (line + lines) condition
          (Program.empty.join lines before) (elseLine + lines) (Program.empty.join lines body) := by
      rw [Program.join, ← Chain.before_behind]
    have whole := chain.complete_behind first lines
      (.choose chain.before line condition before elseLine body)
    rw [last] at whole
    exact whole.symm

namespace Outline

structure Behind (first : Program) (lines : Nat) (outline other : Outline) : Prop where
  clauses : other.clauses = Clause.allBehind first lines outline.clauses
  tail : outline.tail.Behind (Clause.inside first outline.clauses) lines other.tail

variable {first : Program} {lines : Nat} {outline other : Outline}

theorem Behind.enter (behind : Behind first lines outline other) {clause clause' : Clause}
    (same : clause' = clause.behind (Clause.inside first outline.clauses) lines) :
    Behind first lines (outline.enter clause) (other.enter clause') where
  clauses := by
    rw [same]
    exact congrArg _ behind.clauses
  tail := Tail.behind_settled .empty lines rfl

theorem Behind.add (behind : Behind first lines outline other) (line : Nat) (action : Step) :
    Behind first lines (outline.add line action) (other.add (line + lines) action) where
  clauses := behind.clauses
  tail := by
    refine Tail.behind_settled _ lines ?_
    rw [Program.join, behind.tail.program]
    rfl

theorem Behind.leave (behind : Behind first lines outline other) {line column : Nat}
    {next : Outline} (h : outline.leave line column = .ok next) :
    ∃ next', other.leave (line + lines) column = .ok next' ∧ Behind first lines next next' := by
  unfold Outline.leave at h ⊢
  have clauses := behind.clauses
  have inner := behind.tail.program
  cases open' : outline.clauses with
  | nil =>
    rw [open'] at h
    cases h
  | cons clause outer =>
    rw [open'] at h clauses inner
    cases h
    rw [clauses]
    refine ⟨_, rfl, rfl, ?_⟩
    have closed := clause.close_behind (Clause.inside first outer) lines outline.tail.program
    dsimp only
    rw [inner]
    exact closed

theorem Behind.separate (behind : Behind first lines outline other) {line : Nat}
    {terminator : Option Lexeme} {next : Outline}
    (h : outline.separate line terminator = .ok next) :
    ∃ next', other.separate (line + lines) terminator = .ok next' ∧
      Behind first lines next next' := by
  rcases terminator with _ | ⟨column, token⟩
  · cases h
    exact ⟨other, rfl, behind⟩
  cases token
  case closeBrace => exact behind.leave h
  case openBrace => cases h
  all_goals
    cases h
    exact ⟨other, rfl, behind⟩

theorem Behind.continued (behind : Behind first lines outline other) {line column : Nat}
    {keyword : Token} {chain : Chain} {before : Nat} {test : Postfix} {body : Program}
    (h : outline.continued line column keyword = .ok (chain, before, test, body)) :
    other.continued (line + lines) column keyword =
      .ok (chain.behind (Clause.inside first outline.clauses) lines, before + lines, test,
        Program.empty.join lines body) := by
  unfold Outline.continued at h ⊢
  cases found : outline.tail with
  | settled program =>
    rw [found] at h
    cases h
  | ended program =>
    rw [found] at h
    cases h
  | closed chain before test body =>
    rw [found] at h
    cases h
    rw [behind.tail.closed chain before test body found]

theorem Behind.finish (behind : Behind first lines outline other) {program : Program}
    (h : outline.finish = .ok program) : other.finish = .ok (first.join lines program) := by
  unfold Outline.finish at h ⊢
  have clauses := behind.clauses
  have inner := behind.tail.program
  cases open' : outline.clauses with
  | nil =>
    rw [open'] at h clauses inner
    cases h
    rw [clauses]
    exact congrArg Except.ok inner
  | cons clause outer =>
    rw [open'] at h
    cases h

end Outline

/-! ### Reading on lines further down -/

/-- Which expressions are accepted does not depend on their line. -/
theorem Postfix.checked_eq_ok {registry : Option Registry} {line : Nat} {bare : Bool}
    {tokens : List Lexeme} {code : Postfix} :
    Postfix.checked registry line bare tokens = .ok code ↔
      Postfix.ofLexemes tokens = .ok code ∧
        (registry.bind fun registry => code.misuse? registry bare) = none := by
  constructor
  · intro h
    obtain ⟨converted, found, h⟩ := bind_ok h
    cases agrees : registry.bind fun registry => converted.misuse? registry bare with
    | some misuse =>
      rw [agrees] at h
      cases h
    | none =>
      rw [agrees] at h
      cases h
      exact ⟨mapError_ok found, agrees⟩
  · rintro ⟨converted, agrees⟩
    unfold Postfix.checked
    rw [converted]
    dsimp only [Except.mapError, bind, Except.bind]
    rw [agrees]

theorem Postfix.checked_onLine {registry : Option Registry} {line : Nat} {bare : Bool}
    {tokens : List Lexeme} {code : Postfix}
    (h : Postfix.checked registry line bare tokens = .ok code) (other : Nat) :
    Postfix.checked registry other bare tokens = .ok code :=
  checked_eq_ok.mpr (checked_eq_ok.mp h)

namespace Chunk

variable {registry : Option Registry} {line : Nat}

theorem step_onLine {tokens : List Lexeme} {action : Step}
    (h : step registry line tokens = .ok action) (other : Nat) :
    step registry other tokens = .ok action := by
  unfold step at h ⊢
  split at h
  · obtain ⟨code, checked, rfl⟩ := map_ok h
    rw [Postfix.checked_onLine checked other]
    rfl
  · obtain ⟨code, checked, rfl⟩ := map_ok h
    rw [Postfix.checked_onLine checked other]
    rfl
  · cases h
  · obtain ⟨code, checked, rfl⟩ := map_ok h
    rw [Postfix.checked_onLine checked other]
    rfl

theorem condition_onLine {column : Nat} {keyword : Token} {header : List Lexeme}
    {code : Postfix} (h : condition registry line column keyword header = .ok code)
    (other : Nat) : condition registry other column keyword header = .ok code := by
  unfold condition at h ⊢
  split at h
  · cases h
  · next some =>
    rw [if_neg some]
    exact Postfix.checked_onLine h other

theorem requireBrace_onLine {chunk : Chunk} {column : Nat} {keyword : Token} {done : Unit}
    (h : chunk.requireBrace line column keyword = .ok done) (other : Nat) :
    chunk.requireBrace other column keyword = .ok done := by
  unfold requireBrace at h ⊢
  split at h
  · next brace =>
    rw [if_pos brace]
  · cases h

theorem requireNothing_onLine {header : List Lexeme} {done : Unit}
    (h : requireNothing line header = .ok done) (other : Nat) :
    requireNothing other header = .ok done := by
  cases header with
  | nil => rfl
  | cons lexeme rest => cases h

end Chunk

theorem Outline.Behind.read {registry : Option Registry} {first : Program} {lines line : Nat}
    {outline other next : Outline} {chunk : Chunk} (behind : Behind first lines outline other)
    (h : outline.read registry line chunk = .ok next) :
    ∃ next', other.read registry (line + lines) chunk = .ok next' ∧
      Behind first lines next next' := by
  unfold Outline.read at h ⊢
  revert h
  cases chunk.form with
  | opening column header =>
    intro h
    obtain ⟨_, brace, h⟩ := bind_ok h
    obtain ⟨condition, tested, h⟩ := bind_ok h
    cases h
    dsimp only
    rw [Chunk.requireBrace_onLine brace, Chunk.condition_onLine tested]
    refine ⟨_, rfl, behind.enter ?_⟩
    rw [behind.tail.program]
    rfl
  | alternative column header =>
    intro h
    obtain ⟨⟨chain, before, test, body⟩, goesOn, h⟩ := bind_ok h
    obtain ⟨_, brace, h⟩ := bind_ok h
    obtain ⟨condition, tested, h⟩ := bind_ok h
    cases h
    dsimp only
    rw [behind.continued goesOn, Chunk.requireBrace_onLine brace, Chunk.condition_onLine tested]
    exact ⟨_, rfl, behind.enter rfl⟩
  | otherwise column header =>
    intro h
    obtain ⟨⟨chain, before, test, body⟩, goesOn, h⟩ := bind_ok h
    obtain ⟨_, nothing, h⟩ := bind_ok h
    obtain ⟨_, brace, h⟩ := bind_ok h
    cases h
    dsimp only
    rw [behind.continued goesOn, Chunk.requireNothing_onLine nothing,
      Chunk.requireBrace_onLine brace]
    exact ⟨_, rfl, behind.enter rfl⟩
  | blank => exact behind.separate
  | statement tokens =>
    intro h
    obtain ⟨action, spelt, h⟩ := bind_ok h
    dsimp only
    rw [Chunk.step_onLine spelt]
    exact (behind.add line action).separate h

/-! ### Joined lines -/

namespace Chunk

variable {α : Type} {read : Nat → α → Chunk → Except ScriptError α} {state result : α}

theorem foldLine_nil (read : Nat → α → Chunk → Except ScriptError α) (state : α) (line : Nat) :
    foldLine read state line [] = .ok state := by
  have tokens : (Lexer.ofText []).tokens = .ok [] := by
    rw [Lexer.tokens_eq]
    rfl
  rw [foldLine, tokens]
  rfl

theorem foldLine_endLine {line : Nat} {last : List Char}
    (h : foldLine read state line last.reverse = .ok result) :
    foldLine read state line (Text.endLine last) = .ok result := by
  obtain ⟨tokens, lexed, h⟩ := bind_ok h
  rw [foldLine, Lexer.tokens_endLine (mapError_ok lexed)]
  exact h

/-- A newline at the end of a text changes nothing. -/
theorem foldLines_ended {line : Nat} {text : List Char}
    (h : foldLines read state line (Text.lines text) = .ok result) :
    foldLines read state line (Text.linesAfter [] (text ++ ['\n'])) = .ok result := by
  obtain ⟨finished, last, ended, unended⟩ := Text.linesAfter_ended [] text
  rw [Text.lines, unended, foldLines_append] at h
  obtain ⟨between, before, h⟩ := bind_ok h
  rw [ended, foldLines_append, before]
  change foldLine read between _ (Text.endLine last) >>= _ = _
  cases last with
  | nil =>
    cases h
    change foldLine read result _ [] >>= _ = _
    rw [foldLine_nil]
    rfl
  | cons c last =>
    obtain ⟨next, lastRead, h⟩ := bind_ok h
    rw [foldLine_endLine lastRead]
    exact h

end Chunk

/-- The number of lines that a source takes up when another one follows it. -/
def lineCount (source : String) : Nat := source.toList.count '\n' + 1

theorem Program.ofSource_join {registry : Option Registry} {first second : String}
    {program other : Program} (spelt : Program.ofSource registry first = .ok program)
    (spelt' : Program.ofSource registry second = .ok other) :
    Program.ofSource registry (first ++ "\n" ++ second) =
      .ok (program.join (lineCount first) other) := by
  obtain ⟨outline, read, finished⟩ := bind_ok spelt
  obtain ⟨outline', read', finished'⟩ := bind_ok spelt'
  have text : (first ++ "\n" ++ second).toList = first.toList ++ '\n' :: second.toList := by
    rw [String.toList_append, String.toList_append, List.append_assoc]
    rfl
  have ended := Chunk.foldLines_ended read
  -- Behind the first source no clause is open, so the outline stands behind its program.
  have behind : Outline.Behind program (lineCount first) .start outline := by
    unfold Outline.finish at finished
    split at finished
    · next closed =>
      cases finished
      exact ⟨closed, rfl, nofun⟩
    · cases finished
  obtain ⟨last, rest, behind⟩ := Chunk.foldLines_simulates
    (fun _ _ _ _ _ behind read => behind.read read) behind read'
  unfold Program.ofSource
  dsimp only
  rw [text, Text.lines, Text.linesAfter_join, Chunk.foldLines_append, ended,
    Text.length_linesAfter_ended, bind_assoc]
  change Chunk.foldLines (Outline.read registry) outline (1 + lineCount first) _ >>= _ = _
  rw [rest]
  exact behind.finish finished'

theorem compile_join {registry : Option Registry} {first second : String} {block other : Block}
    (compiled : compile registry first = .ok block)
    (compiled' : compile registry second = .ok other) :
    compile registry (first ++ "\n" ++ second) =
      .ok (block ++ other.moved block.length (lineCount first)) := by
  rw [compile_eq] at compiled compiled'
  obtain ⟨program, spelt, rfl⟩ := map_ok compiled
  obtain ⟨rest, spelt', rfl⟩ := map_ok compiled'
  have length : program.toBlock.length = program.size := program.length_flatten 0
  rw [compile_eq, Program.ofSource_join spelt spelt', length]
  refine congrArg Except.ok ?_
  exact program.flatten_join (lineCount first) rest rfl

theorem compile_forward {registry : Option Registry} {source : String} {block : Block}
    (compiled : compile registry source = .ok block) : block.Forward 0 block.length := by
  rw [compile_eq] at compiled
  obtain ⟨program, -, rfl⟩ := map_ok compiled
  refine program.forward_flatten 0 ?_
  rw [Nat.zero_add]
  exact Nat.le_of_eq (program.length_flatten 0).symm

end EventScript
