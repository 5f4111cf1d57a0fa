import EventScript.Compile
import EventScript.Proofs.Program.Chunks
import EventScript.Proofs.Program.Outline

/-!
# Assembled programs

The assembler emits the statements of the program that a source spells. While a conditional can go
on, the jumps out of its clauses and the branch of its last clause still lead nowhere.
-/

namespace EventScript

/-! ### Targets -/

@[simp] theorem Block.length_redirect (target : Nat) (block : Block) (index : Nat) :
    (Block.redirect target block index).length = block.length :=
  List.length_modify _ _ _

theorem Block.redirect_append (target : Nat) (before : Block) (statement : Statement)
    (rest : Block) {index : Nat} (position : before.length = index) :
    Block.redirect target (before ++ statement :: rest) index =
      before ++ statement.retarget target :: rest := by
  subst position
  unfold Block.redirect
  induction before with
  | nil => rfl
  | cons first before ih => rw [List.cons_append, List.length_cons, List.modify_succ_cons, ih]; rfl

namespace Chain

def size : Chain → Nat
  | first before _ _ => before.size
  | after chain _ _ body _ => chain.size + 1 + body.size + 1

/-- The statements of the chain, the first of which has index `start`, when the jumps out of its
clauses lead to `target`. -/
def code (target start : Nat) : Chain → Block
  | first before _ _ => before.flatten start
  | after chain line condition body elseLine =>
    let inside := start + chain.size + 1
    chain.code target start ++ ⟨line, .branch condition (inside + body.size + 1)⟩ ::
      body.flatten inside ++ [⟨elseLine, .jump target⟩]

def jumps (start : Nat) : Chain → List Nat
  | first .. => []
  | after chain _ _ body _ => chain.jumps start ++ [start + chain.size + 1 + body.size]

def origin (start : Nat) : Chain → Nat
  | first .. => start
  | after chain _ _ body _ => start + chain.size + 1 + body.size + 1

@[simp] theorem length_code (chain : Chain) (target start : Nat) :
    (chain.code target start).length = chain.size := by
  induction chain with
  | first before line column => simp [code, size]
  | after chain line condition body elseLine ih => simp [code, size, ih]; omega

theorem origin_add (chain : Chain) (start : Nat) :
    chain.origin start + chain.before.size = start + chain.size := by
  cases chain with
  | first => rfl
  | after => simp only [origin, before, size, Program.size]; omega

theorem redirect_code (chain : Chain) (target old : Nat) (before rest : Block) {start : Nat}
    (position : before.length = start) :
    (chain.jumps start).foldl (Block.redirect target) (before ++ chain.code old start ++ rest) =
      before ++ chain.code target start ++ rest := by
  induction chain generalizing rest with
  | first => rfl
  | after chain line condition body elseLine ih =>
    have jump := Block.redirect_append target
      (before ++ chain.code target start ++ ⟨line, .branch condition
        (start + chain.size + 1 + body.size + 1)⟩ :: body.flatten (start + chain.size + 1))
      ⟨elseLine, .jump old⟩ rest
      (show _ = start + chain.size + 1 + body.size by simp; omega)
    simp only [code, jumps, List.foldl_append, List.foldl_cons, List.foldl_nil]
    simp only [List.append_assoc, List.cons_append, List.nil_append] at ih jump ⊢
    rw [ih, jump]
    rfl

/-- The chain emits what the completed program has in front of its last clause. -/
theorem flatten_complete (chain : Chain) (last : Program) (start : Nat) {rest : Block}
    (begins : last.flatten (chain.origin start) =
      chain.before.flatten (chain.origin start) ++ rest) :
    (chain.complete last).flatten start =
      chain.code (chain.origin start + last.size) start ++ rest := by
  induction chain generalizing last rest with
  | first before line column => exact begins
  | after chain line condition body elseLine ih =>
    have position := chain.origin_add start
    have inner : last.flatten (start + chain.size + 1 + body.size + 1) = rest := begins
    have whole : (Program.choose chain.before line condition body elseLine last).flatten
        (chain.origin start) = chain.before.flatten (chain.origin start) ++
          (⟨line, .branch condition (start + chain.size + 1 + body.size + 1)⟩ ::
            body.flatten (start + chain.size + 1) ++
            ⟨elseLine, .jump (start + chain.size + 1 + body.size + 1 + last.size)⟩ :: rest) := by
      simp only [Program.flatten, position, inner, List.append_assoc, List.cons_append]
    have finish : chain.origin start +
        (Program.choose chain.before line condition body elseLine last).size =
          start + chain.size + 1 + body.size + 1 + last.size := by
      simp only [Program.size]
      omega
    rw [complete, ih _ whole, finish]
    simp only [code, origin, List.append_assoc, List.cons_append, List.nil_append]

theorem redirect_when (chain : Chain) (line : Nat) (condition : Postfix) (body : Program)
    (outer : Block) {block code : Block}
    (opens : code = chain.code 0 outer.length ++ [⟨line, .branch condition 0⟩])
    (emitted : block = outer ++ (code ++ body.flatten (outer.length + code.length))) :
    (chain.jumps outer.length).foldl (Block.redirect block.length)
        (Block.redirect block.length block (outer.length + chain.size)) =
      outer ++ (chain.complete (.when chain.before line condition body)).flatten outer.length := by
  have length : block.length = outer.length + chain.size + 1 + body.size := by
    simp [emitted, opens]
    omega
  generalize block.length = target at length
  have position := chain.origin_add outer.length
  have last : (Program.when chain.before line condition body).flatten
      (chain.origin outer.length) = chain.before.flatten (chain.origin outer.length) ++
        ⟨line, .branch condition target⟩ :: body.flatten (outer.length + chain.size + 1) := by
    simp only [Program.flatten, position, length]
  have finish : chain.origin outer.length +
      (Program.when chain.before line condition body).size = target := by
    simp only [Program.size]
    omega
  have before : block = outer ++ chain.code 0 outer.length ++ ⟨line, .branch condition 0⟩ ::
      body.flatten (outer.length + chain.size + 1) := by
    simp [emitted, opens, Nat.add_assoc]
  rw [chain.flatten_complete _ _ last, finish, before, Block.redirect_append _ _ _ _ (by simp),
    redirect_code _ _ _ _ _ rfl, List.append_assoc]
  rfl

theorem redirect_choose (chain : Chain) (line : Nat) (condition : Postfix) (body : Program)
    (elseLine : Nat) (alternative : Program) (outer : Block) {block code : Block}
    (opens : code = (chain.after line condition body elseLine).code 0 outer.length)
    (emitted : block = outer ++ (code ++ alternative.flatten (outer.length + code.length))) :
    ((chain.after line condition body elseLine).jumps outer.length).foldl
        (Block.redirect block.length) block =
      outer ++ (chain.complete (.choose chain.before line condition body elseLine
        alternative)).flatten outer.length := by
  have length : block.length =
      outer.length + chain.size + 1 + body.size + 1 + alternative.size := by
    simp [emitted, opens, size]
    omega
  generalize block.length = target at length
  have inside : outer.length + code.length = outer.length + chain.size + 1 + body.size + 1 := by
    simp [opens, size]
    omega
  have whole := (chain.after line condition body elseLine).flatten_complete alternative
    outer.length rfl
  rw [emitted, inside, opens, ← List.append_assoc, redirect_code _ _ _ _ _ rfl,
    List.append_assoc]
  change _ = outer ++ ((chain.after line condition body elseLine).complete alternative).flatten _
  rw [whole, length]
  rfl

end Chain

/-! ### Outlines in the assembler -/

/-- What an open clause has emitted from index `start` on, and its conditional. -/
inductive Clause.Emits (start : Nat) : Clause → Block → Conditional → Prop where
  | test (chain : Chain) (line : Nat) (condition : Postfix) :
      Emits start (.test chain line condition)
        (chain.code 0 start ++ [⟨line, .branch condition 0⟩])
        ⟨some (start + chain.size), chain.jumps start, false, chain.start.1, chain.start.2⟩
  | otherwise (chain : Chain) (line : Nat) (condition : Postfix) (body : Program)
      (elseLine : Nat) :
      Emits start (.otherwise chain line condition body elseLine)
        ((chain.after line condition body elseLine).code 0 start)
        ⟨none, (chain.after line condition body elseLine).jumps start, true, chain.start.1,
          chain.start.2⟩

inductive EmitAll : List Clause → Block → List Conditional → Prop where
  | nil : EmitAll [] [] []
  | cons {clause : Clause} {clauses : List Clause} {outer code : Block}
      {conditional : Conditional} {opened : List Conditional} :
      clause.Emits outer.length code conditional → EmitAll clauses outer opened →
      EmitAll (clause :: clauses) (outer ++ code) (conditional :: opened)

/-- What the innermost block has emitted, and the conditional at its end that was just closed. -/
inductive Tail.Emits (start : Nat) : Tail → Block → Option Conditional → Prop where
  | settled (program : Program) : Emits start (.settled program) (program.flatten start) none
  | closed {clause : Clause} {code : Block} {conditional : Conditional} (body : Program) :
      clause.Emits start code conditional →
      Emits start (clause.close body) (code ++ body.flatten (start + code.length))
        (some conditional)

def Outline.Emits (outline : Outline) (assembler : Assembler) : Prop :=
  ∃ outer code, EmitAll outline.clauses outer assembler.opened ∧
    outline.tail.Emits outer.length code assembler.closed ∧ assembler.statements = outer ++ code

namespace Assembler

theorem settle_emits {outline : Outline} {assembler : Assembler}
    (emits : outline.Emits assembler) : ∃ outer, EmitAll outline.clauses outer assembler.opened ∧
      assembler.settle =
        ⟨outer ++ outline.tail.program.flatten outer.length, assembler.opened, none⟩ := by
  obtain ⟨clauses, tail⟩ := outline
  obtain ⟨statements, opened, closed⟩ := assembler
  obtain ⟨outer, code, all, inner, equal⟩ := emits
  refine ⟨outer, all, ?_⟩
  dsimp only at inner equal ⊢
  subst equal
  cases inner with
  | settled program => rfl
  | closed body clause =>
    cases clause with
    | test chain line condition =>
      have patched := chain.redirect_when line condition body outer rfl rfl
      simp only [settle, patchBranch, Block.length_redirect]
      rw [patched]
      rfl
    | otherwise chain line condition alternative elseLine =>
      have patched := chain.redirect_choose line condition alternative elseLine body outer rfl rfl
      simp only [settle, patchBranch]
      rw [patched]
      rfl

theorem emits_enter {clause : Clause} {clauses : List Clause} {outer code statements : Block}
    {conditional : Conditional} {opened : List Conditional} (all : EmitAll clauses outer opened)
    (emits : clause.Emits outer.length code conditional) (equal : statements = outer ++ code) :
    Outline.Emits ⟨clause :: clauses, .settled .empty⟩
      ⟨statements, conditional :: opened, none⟩ := by
  refine ⟨outer ++ code, [], .cons emits all, .settled .empty, ?_⟩
  rw [equal, List.append_nil]

/-- Another clause follows on a chain without an `else`, whose last clause then ends in a jump. -/
theorem continued_agree {outline : Outline} {assembler : Assembler}
    (emits : outline.Emits assembler) (line column : Nat) (keyword : Token) :
    Agree (fun (chain, before, condition, body) conditional =>
        ∃ outer, EmitAll outline.clauses outer assembler.opened ∧
          assembler.statements.length = outer.length + chain.size + 1 + body.size ∧
          conditional = ⟨some (outer.length + chain.size), chain.jumps outer.length, false,
            chain.start.1, chain.start.2⟩ ∧
          assembler.leave line conditional =
            ⟨outer ++ (chain.after before condition body line).code 0 outer.length,
              assembler.opened, none⟩)
      (outline.continued line column keyword) (assembler.continued line column keyword) := by
  obtain ⟨clauses, tail⟩ := outline
  obtain ⟨statements, opened, closed⟩ := assembler
  obtain ⟨outer, code, all, inner, equal⟩ := emits
  dsimp only at all inner equal ⊢
  subst equal
  cases inner with
  | settled program => exact .error _
  | closed body clause =>
    cases clause with
    | otherwise => exact .error _
    | test chain before condition =>
      refine .ok ⟨outer, all, by simp; omega, rfl, ?_⟩
      have patched := fun target => Block.redirect_append target
        (outer ++ chain.code 0 outer.length) ⟨before, .branch condition 0⟩
        (body.flatten (outer.length + chain.size + 1) ++ [⟨line, .jump 0⟩])
        (show _ = outer.length + chain.size by simp)
      simp [Nat.add_assoc] at patched
      simp [leave, emit, patchBranch, Chain.code, Nat.add_assoc, patched, Statement.retarget]
      omega

theorem separate_agree {outline : Outline} {assembler : Assembler}
    (emits : outline.Emits assembler) (line : Nat) {terminator : Option Lexeme}
    (settled : ∀ column, terminator = some ⟨column, .closeBrace⟩ → assembler.closed = none) :
    Agree Outline.Emits (outline.separate line terminator)
      (assembler.separate line terminator) := by
  rcases terminator with _ | ⟨column, token⟩
  · exact .ok emits
  cases token
  case openBrace => exact .error _
  case closeBrace =>
    obtain ⟨clauses, tail⟩ := outline
    obtain ⟨statements, opened, closed⟩ := assembler
    obtain ⟨outer, code, all, inner, equal⟩ := emits
    obtain rfl : closed = none := settled column rfl
    dsimp only at all inner equal ⊢
    cases inner with
    | settled program =>
      cases all with
      | nil => exact .error _
      | @cons clause clauses outer code conditional opened emits all =>
        refine .ok ⟨outer, code ++ program.flatten (outer.length + code.length), all,
          .closed program emits, ?_⟩
        rw [equal, List.length_append, List.append_assoc]
  all_goals exact .ok emits

theorem finish_agree {outline : Outline} {assembler : Assembler}
    (emits : outline.Emits assembler) :
    Agree (fun program block => program.toBlock = block) outline.finish assembler.finish := by
  obtain ⟨outer, all, settled⟩ := settle_emits emits
  obtain ⟨clauses, tail⟩ := outline
  obtain ⟨statements, opened, closed⟩ := assembler
  dsimp only at all settled
  unfold Outline.finish finish
  rw [settled]
  cases all with
  | nil => exact .ok rfl
  | cons clause all =>
    dsimp only
    cases clause with
    | test => exact .error _
    | otherwise => exact .error _

theorem read_agree (registry : Option Registry) (line : Nat) {outline : Outline}
    {assembler : Assembler} (emits : outline.Emits assembler) (chunk : Chunk) :
    Agree Outline.Emits (outline.read registry line chunk)
      (assembler.read registry line chunk) := by
  obtain ⟨outer, all, settled⟩ := settle_emits emits
  unfold Outline.read read
  cases chunk.form with
  | opening column header =>
    refine .after _ fun _ => .after _ fun condition => .ok ?_
    rw [settled]
    have position : (outer ++ outline.tail.program.flatten outer.length).length =
        outer.length + outline.tail.program.size := by simp
    simp only [enter, emit, position]
    exact emits_enter all (.test (.first outline.tail.program line column) line condition)
      (List.append_assoc _ _ _)
  | alternative column header =>
    refine .bind (continued_agree emits line column _) ?_
    rintro ⟨chain, before, test, body⟩ conditional ⟨outer, all, length, rfl, left⟩
    refine .after _ fun _ => .after _ fun condition => .ok ?_
    have position : (outer ++ (chain.after before test body line).code 0 outer.length).length =
        outer.length + (chain.after before test body line).size := by simp
    simp only [left, enter, emit, position, length]
    exact emits_enter all (.test (.after chain before test body line) line condition)
      (List.append_assoc _ _ _)
  | otherwise column header =>
    refine .bind (continued_agree emits line column _) ?_
    rintro ⟨chain, before, test, body⟩ conditional ⟨outer, all, length, rfl, left⟩
    refine .after _ fun _ => .after _ fun _ => .ok ?_
    simp only [left, length]
    exact emits_enter all (.otherwise chain before test body line) rfl
  | blank =>
    by_cases ends : chunk.endsIn .closeBrace = true
    · obtain ⟨⟨brace, token⟩, closes, same⟩ := (Option.any_eq_true _ _).mp ends
      obtain rfl : token = .closeBrace := eq_of_beq same
      have whole : Outline.Emits ⟨outline.clauses, .settled outline.tail.program⟩
          assembler.settle := by
        rw [settled]
        exact ⟨outer, _, all, .settled _, rfl⟩
      have agree := @separate_agree _ _ whole line (some ⟨brace, .closeBrace⟩)
        fun _ _ => by rw [settled]
      dsimp only
      rw [if_pos ends, closes]
      exact agree
    · rw [if_neg ends]
      refine separate_agree emits line fun column closes => ?_
      rw [Chunk.endsIn, closes] at ends
      exact absurd rfl ends
  | statement tokens =>
    refine .after _ fun step => ?_
    have added : (outline.add line step).Emits (assembler.settle.emit line (.perform step)) := by
      rw [settled]
      exact ⟨outer, _, all, .settled _, by simp [emit, Program.flatten]⟩
    refine separate_agree added line fun _ _ => ?_
    rw [settled]
    rfl

end Assembler

/-- A source compiles to the block of the program that it spells, and fails to where it spells
none. -/
theorem compile_eq (registry : Option Registry) (source : String) :
    compile registry source = (Program.ofSource registry source).map Program.toBlock := by
  have begins : Outline.start.Emits Assembler.start :=
    ⟨[], [], .nil, .settled .empty, rfl⟩
  have agree : Agree (fun program block => Program.toBlock program = block)
      (Program.ofSource registry source) (compile registry source) :=
    (Chunk.foldLines_agree (fun line _ _ chunk emits => Assembler.read_agree registry line emits
      chunk) begins 1 _).bind fun _ _ emits => Assembler.finish_agree emits
  exact agree.eq_map

end EventScript
