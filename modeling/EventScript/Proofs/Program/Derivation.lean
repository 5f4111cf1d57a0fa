import EventScript.Proofs.Program.Reading

/-!
# Reading and deriving

What is read up to where no clause is open derives from the grammar of scripts, and what derives
from it is read.
-/

namespace EventScript

open Nesting (Reads ReadsAll)

/-! ### What is read derives from the grammar -/

theorem clause_append (header : List Lexeme) (brace : Nat) (rest : List Symbol) :
    clause header brace [] ++ rest = clause header brace rest := by
  simp [clause]

theorem IsBlock.gap {block gap : List Symbol} (isBlock : IsBlock block) (isGap : IsGap gap) :
    IsBlock (block ++ gap) := by
  induction gap generalizing block with
  | nil => rwa [List.append_nil]
  | cons symbol gap ih =>
    have first := isBlock.snoc (.empty (isGap symbol List.mem_cons_self))
    have rest := ih first fun other member => isGap other (List.mem_cons_of_mem symbol member)
    simpa using rest

/-- What a conditional is once a clause of it is closed, given whether another may follow. -/
def Closed : Bool → List Symbol → Prop
  | true => IsChain
  | false => IsItem

/-- Symbols that end where a clause is open. Whatever body follows completes it. -/
inductive Opened : List Bool → List Symbol → Prop where
  | nil : Opened [] []
  | cons {clauses : List Bool} {goesOn : Bool} {outer block head : List Symbol} :
      Opened clauses outer → IsBlock block →
      (∀ body, IsBody body → Closed goesOn (head ++ body)) →
      Opened (goesOn :: clauses) (outer ++ block ++ head)

/-- The innermost block so far, given whether another clause may follow. -/
inductive Inner : Bool → List Symbol → Prop where
  | settled {block : List Symbol} : IsBlock block → Inner false block
  | closed {block chain gap : List Symbol} :
      IsBlock block → IsChain chain → IsGap gap → Inner true (block ++ (chain ++ gap))

theorem Inner.isBlock {goesOn : Bool} {inner : List Symbol} (h : Inner goesOn inner) :
    IsBlock inner := by
  cases h with
  | settled block => exact block
  | closed block chain gap =>
    have whole := (block.snoc (.chain chain)).gap gap
    rwa [List.append_assoc] at whole

theorem Inner.append_end {goesOn : Bool} {inner : List Symbol} {symbol : Symbol}
    (h : Inner goesOn inner) (ends : IsEnd symbol) : Inner goesOn (inner ++ [symbol]) := by
  cases h with
  | settled block => exact .settled (block.snoc (.empty ends))
  | closed block chain gap =>
    rw [List.append_assoc, List.append_assoc]
    refine .closed block chain fun other member => ?_
    rcases List.mem_append.mp member with old | new
    · exact gap other old
    · rwa [List.mem_singleton.mp new]

namespace Nesting

def Begun (nesting : Nesting) (before : List Symbol) : Prop :=
  ∃ outer inner, before = outer ++ inner ∧ Opened nesting.clauses outer ∧
    Inner nesting.goesOn inner

theorem begun_start : Begun ⟨[], false⟩ [] := ⟨[], [], rfl, .nil, .settled .nil⟩

theorem begun_close {clauses : List Bool} {goesOn : Bool} {outer body : List Symbol}
    (opened : Opened (goesOn :: clauses) outer) (isBody : IsBody body) :
    Begun ⟨clauses, goesOn⟩ (outer ++ body) := by
  cases opened with
  | @cons _ _ outer block head opened isBlock completes =>
    refine ⟨outer, block ++ (head ++ body), by simp, opened, ?_⟩
    have closed := completes body isBody
    cases goesOn with
    | false => exact .settled (isBlock.snoc closed)
    | true =>
      have nothing : IsGap [] := nofun
      simpa using Inner.closed isBlock closed nothing

theorem begun_open {clauses : List Bool} {goesOn : Bool} {outer block head : List Symbol}
    (opened : Opened clauses outer) (isBlock : IsBlock block)
    (completes : ∀ body, IsBody body → Closed goesOn (head ++ body)) :
    Begun ⟨goesOn :: clauses, false⟩ (outer ++ block ++ head) :=
  ⟨_, [], by simp, .cons opened isBlock completes, .settled .nil⟩

theorem Reads.begun {before after : Nesting} {chunk : Chunk} {read : List Symbol}
    (reads : Reads before chunk after) (h : before.Begun read) :
    after.Begun (read ++ chunk.symbols) := by
  obtain ⟨outer, inner, rfl, opened, inside⟩ := h
  cases reads with
  | empty nothing ends =>
    refine ⟨outer, inner ++ [chunk.ending], ?_, opened, inside.append_end ends⟩
    simp [Chunk.symbols, nothing, spelled]
  | statement statement ends =>
    refine ⟨outer, inner ++ chunk.symbols, by simp, opened, .settled ?_⟩
    exact inside.isBlock.snoc (.statement statement ends)
  | close brace =>
    have closed := begun_close opened (.block brace inside.isBlock)
    simpa [Chunk.symbols, Chunk.ending, spelled] using closed
  | lastStatement brace statement =>
    have closed := begun_close opened (.statement brace inside.isBlock statement)
    simpa [Chunk.symbols, Chunk.ending] using closed
  | @opening clauses goesOn condition column brace converts =>
    have completes (body : List Symbol) (isBody : IsBody body) :
        Closed true (clause (⟨column, .ifKeyword⟩ :: condition) brace [] ++ body) := by
      rw [clause_append]
      exact IsChain.opening column brace converts isBody
    exact begun_open opened inside.isBlock completes
  | @alternative clauses condition column brace converts =>
    cases inside with
    | @closed block chain gap isBlock isChain isGap =>
      -- The chain is no longer the end of the innermost block, but the head of what is now open.
      have completes (body : List Symbol) (isBody : IsBody body) :
          Closed true
            (chain ++ gap ++ clause (⟨column, .elseifKeyword⟩ :: condition) brace [] ++ body) := by
        rw [List.append_assoc _ _ body, clause_append]
        exact IsChain.alternative column brace isChain isGap converts isBody
      have entered := begun_open opened isBlock completes
      simpa [Chunk.symbols, Chunk.ending, clause] using entered
  | otherwise column brace =>
    cases inside with
    | @closed block chain gap isBlock isChain isGap =>
      have completes (body : List Symbol) (isBody : IsBody body) :
          Closed false (chain ++ gap ++ clause [⟨column, .elseKeyword⟩] brace [] ++ body) := by
        rw [List.append_assoc _ _ body, clause_append]
        exact IsItem.otherwise column brace isChain isGap isBody
      have entered := begun_open opened isBlock completes
      simpa [Chunk.symbols, Chunk.ending, clause] using entered

theorem ReadsAll.begun {before after : Nesting} {chunks : List Chunk} {read : List Symbol}
    (reads : ReadsAll before chunks after) (h : before.Begun read) :
    after.Begun (read ++ chunks.flatMap Chunk.symbols) := by
  induction reads generalizing read with
  | nil => simpa using h
  | cons step _ ih =>
    have next := ih (step.begun h)
    simpa using next

theorem Begun.isBlock {goesOn : Bool} {read : List Symbol} (h : Begun ⟨[], goesOn⟩ read) :
    IsBlock read := by
  obtain ⟨outer, inner, rfl, opened, inside⟩ := h
  cases opened
  exact inside.isBlock

end Nesting

/-! ### What the grammar derives is read -/

def Nesting.Accepts (nesting : Nesting) (chunks : List Chunk) : Prop :=
  ∃ goesOn, ReadsAll nesting chunks ⟨[], goesOn⟩

namespace Nesting

theorem Reads.accepts {before after : Nesting} {chunk : Chunk} {chunks : List Chunk}
    (reads : Reads before chunk after) (later : after.Accepts chunks) :
    before.Accepts (chunk :: chunks) := by
  obtain ⟨goesOn, rest⟩ := later
  exact ⟨goesOn, .cons reads rest⟩

/-- That another clause may follow forbids nothing. -/
theorem Accepts.extensible {clauses : List Bool} {chunks : List Chunk}
    (accepts : Accepts ⟨clauses, false⟩ chunks) (goesOn : Bool) :
    Accepts ⟨clauses, goesOn⟩ chunks := by
  induction chunks with
  | nil =>
    obtain ⟨last, reads⟩ := accepts
    cases reads
    exact ⟨goesOn, .nil _⟩
  | cons chunk chunks ih =>
    obtain ⟨last, reads⟩ := accepts
    cases reads with
    | cons step rest =>
      have later : Accepts _ chunks := ⟨last, rest⟩
      cases step with
      | empty nothing ends => exact (Reads.empty nothing ends).accepts (ih later)
      | statement statement ends => exact (Reads.statement statement ends).accepts later
      | close brace => exact (Reads.close brace).accepts later
      | lastStatement brace statement => exact (Reads.lastStatement brace statement).accepts later
      | opening column brace converts => exact (Reads.opening column brace converts).accepts later

end Nesting

theorem IsGap.accepts {gap : List Symbol} (isGap : IsGap gap) {nesting : Nesting}
    {rest : List Symbol} (later : nesting.Accepts (Chunk.cut [] rest)) :
    nesting.Accepts (Chunk.cut [] (gap ++ rest)) := by
  induction gap with
  | nil => exact later
  | cons symbol gap ih =>
    have ends := isGap symbol List.mem_cons_self
    have others := ih fun other member => isGap other (List.mem_cons_of_mem symbol member)
    obtain ⟨terminator, rfl, cut⟩ := Chunk.cut_ended [] nofun ends (gap ++ rest)
    change nesting.Accepts (Chunk.cut [] (spelled [] ++ _ :: (gap ++ rest)))
    rw [cut]
    exact (Reads.empty rfl ends).accepts others

theorem accepts_clause {before after : Nesting} {header : List Lexeme} {brace : Nat}
    {rest : List Symbol}
    (plain : ∀ lexeme ∈ header, lexeme.token.isSeparator = false)
    (reads : Reads before ⟨header, some ⟨brace, .openBrace⟩⟩ after)
    (later : after.Accepts (Chunk.cut [] rest)) :
    before.Accepts (Chunk.cut [] (clause header brace rest)) := by
  rw [clause, Chunk.cut_separated header plain _ rfl]
  exact reads.accepts later

theorem Converts.header_not_separator {condition : List Lexeme} (converts : Converts condition)
    (column : Nat) {keyword : Token} (plain : keyword.isSeparator = false) :
    ∀ lexeme ∈ ⟨column, keyword⟩ :: condition, lexeme.token.isSeparator = false := by
  intro lexeme member
  rcases List.mem_cons.mp member with rfl | member
  · exact plain
  · exact converts.not_separator lexeme member

/-! The symbols behind a derivation are carried along, so that each rule is read where it stands. -/

mutual

theorem IsBlock.accepts {block : List Symbol} (isBlock : IsBlock block) {clauses : List Bool}
    {rest : List Symbol} (later : Nesting.Accepts ⟨clauses, false⟩ (Chunk.cut [] rest))
    (goesOn : Bool) : Nesting.Accepts ⟨clauses, goesOn⟩ (Chunk.cut [] (block ++ rest)) := by
  match isBlock with
  | .nil => exact later.extensible goesOn
  | .snoc first item =>
    rw [List.append_assoc]
    exact first.accepts (item.accepts later false) goesOn

theorem IsItem.accepts {item : List Symbol} (isItem : IsItem item) {clauses : List Bool}
    {rest : List Symbol} (later : Nesting.Accepts ⟨clauses, false⟩ (Chunk.cut [] rest))
    (goesOn : Bool) : Nesting.Accepts ⟨clauses, goesOn⟩ (Chunk.cut [] (item ++ rest)) := by
  match isItem with
  | .empty ends =>
    have isGap : IsGap [_] := fun other member => by rwa [List.mem_singleton.mp member]
    exact isGap.accepts (later.extensible goesOn)
  | .statement statement ends =>
    obtain ⟨terminator, rfl, cut⟩ := Chunk.cut_ended _ statement.not_separator ends rest
    rw [List.append_assoc, List.singleton_append, cut]
    exact (Reads.statement statement ends).accepts later
  | .chain chain => exact chain.accepts (later.extensible true) goesOn
  | .otherwise column brace chain gap body =>
    have plain : ∀ lexeme ∈ [(⟨column, .elseKeyword⟩ : Lexeme)],
        lexeme.token.isSeparator = false := fun lexeme member => by
      rw [List.mem_singleton.mp member]
      rfl
    have entered := accepts_clause plain (.otherwise column brace) (body.accepts later false)
    have whole := chain.accepts (gap.accepts entered) goesOn
    simpa [clause] using whole

theorem IsChain.accepts {chain : List Symbol} (isChain : IsChain chain) {clauses : List Bool}
    {rest : List Symbol} (later : Nesting.Accepts ⟨clauses, true⟩ (Chunk.cut [] rest))
    (goesOn : Bool) : Nesting.Accepts ⟨clauses, goesOn⟩ (Chunk.cut [] (chain ++ rest)) := by
  match isChain with
  | .opening column brace converts body =>
    have step : Reads ⟨clauses, goesOn⟩ _ ⟨true :: clauses, false⟩ :=
      .opening column brace converts
    have entered := accepts_clause (converts.header_not_separator column rfl) step
      (body.accepts later false)
    simpa [clause] using entered
  | .alternative column brace chain gap converts body =>
    have entered := accepts_clause (converts.header_not_separator column rfl)
      (.alternative column brace converts) (body.accepts later false)
    have whole := chain.accepts (gap.accepts entered) goesOn
    simpa [clause] using whole

theorem IsBody.accepts {body : List Symbol} (isBody : IsBody body) {clauses : List Bool}
    {outer : Bool} {rest : List Symbol}
    (later : Nesting.Accepts ⟨clauses, outer⟩ (Chunk.cut [] rest)) (goesOn : Bool) :
    Nesting.Accepts ⟨outer :: clauses, goesOn⟩ (Chunk.cut [] (body ++ rest)) := by
  match isBody with
  | .block brace block =>
    have cut := Chunk.cut_separated [] nofun ⟨brace, .closeBrace⟩ rfl rest
    have step : Reads ⟨outer :: clauses, false⟩ _ ⟨clauses, outer⟩ := .close brace
    have closed := step.accepts later
    rw [← cut] at closed
    rw [List.append_assoc]
    exact block.accepts closed goesOn
  | .statement brace block statement =>
    have cut := Chunk.cut_separated _ statement.not_separator ⟨brace, .closeBrace⟩ rfl rest
    have step : Reads ⟨outer :: clauses, false⟩ _ ⟨clauses, outer⟩ := .lastStatement brace statement
    have closed := step.accepts later
    rw [← cut] at closed
    have whole := block.accepts closed goesOn
    simpa using whole

end

end EventScript
