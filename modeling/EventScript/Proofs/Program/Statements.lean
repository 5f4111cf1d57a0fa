import EventScript.Compile
import EventScript.Proofs.Program.Chunks

/-!
# Statements of compiled blocks

What holds of all statements that the assembler emits, whatever their targets become, holds of all
statements of a compiled block.
-/

namespace EventScript

/-- Whether all statements have the property when they are emitted, and keep it when their targets
are set. -/
structure EmitsOnly (registry : Option Registry) (property : Statement → Prop) : Prop where
  retarget : ∀ {statement : Statement} (target : Nat), property statement →
    property (statement.retarget target)
  jump : ∀ line : Nat, property ⟨line, .jump 0⟩
  branch : ∀ {line column : Nat} {keyword : Token} {header : List Lexeme} {condition : Postfix},
    Chunk.condition registry line column keyword header = .ok condition →
    property ⟨line, .branch condition 0⟩
  perform : ∀ {line : Nat} {tokens : List Lexeme} {step : Step},
    Chunk.step registry line tokens = .ok step → property ⟨line, .perform step⟩

namespace Assembler

variable {registry : Option Registry} {property : Statement → Prop} {assembler : Assembler}

def All (property : Statement → Prop) (assembler : Assembler) : Prop :=
  ∀ statement ∈ assembler.statements, property statement

theorem redirect_all (emits : EmitsOnly registry property) {block : Block}
    (all : ∀ statement ∈ block, property statement) (target index : Nat) :
    ∀ statement ∈ Block.redirect target block index, property statement := by
  unfold Block.redirect
  induction block generalizing index with
  | nil => simp
  | cons first rest ih =>
    have inRest := fun statement member => all statement (List.mem_cons_of_mem first member)
    intro statement member
    cases index with
    | zero =>
      rw [List.modify_zero_cons] at member
      rcases List.mem_cons.mp member with rfl | member
      · exact emits.retarget target (all first List.mem_cons_self)
      · exact inRest statement member
    | succ index =>
      rw [List.modify_succ_cons] at member
      rcases List.mem_cons.mp member with rfl | member
      · exact all _ List.mem_cons_self
      · exact ih inRest index statement member

theorem All.emit (all : assembler.All property) {line : Nat} {command : Command}
    (holds : property ⟨line, command⟩) : (assembler.emit line command).All property := by
  intro statement member
  rcases List.mem_append.mp member with member | member
  · exact all statement member
  · rw [List.mem_singleton.mp member]
    exact holds

theorem All.patchBranch (emits : EmitsOnly registry property) (all : assembler.All property)
    (conditional : Conditional) : (assembler.patchBranch conditional).All property := by
  unfold Assembler.patchBranch
  split
  · exact redirect_all emits all _ _
  · exact all

theorem All.settle (emits : EmitsOnly registry property) (all : assembler.All property) :
    assembler.settle.All property := by
  have folded : ∀ (jumps : List Nat) (target : Nat) (block : Block),
      (∀ statement ∈ block, property statement) →
        ∀ statement ∈ jumps.foldl (Block.redirect target) block, property statement := by
    intro jumps target
    induction jumps with
    | nil => exact fun _ all => all
    | cons index jumps ih => exact fun block all => ih _ (redirect_all emits all target index)
  unfold Assembler.settle
  split
  · exact all
  · have cleared : All property { assembler with closed := none } := all
    exact folded _ _ _ (cleared.patchBranch emits _)

theorem All.leave (emits : EmitsOnly registry property) (all : assembler.All property) (line : Nat)
    (conditional : Conditional) : (assembler.leave line conditional).All property := by
  have cleared : All property { assembler with closed := none } := all
  exact (cleared.emit (emits.jump line)).patchBranch emits conditional

theorem All.separate {next : Assembler} (all : assembler.All property) {line : Nat}
    {terminator : Option Lexeme} (h : assembler.separate line terminator = .ok next) :
    next.All property := by
  unfold Assembler.separate at h
  split at h
  · split at h
    · cases h
    · cases h
      exact all
  · cases h
  · cases h
    exact all

theorem All.read (emits : EmitsOnly registry property) {line : Nat} {chunk : Chunk}
    {next : Assembler} (all : assembler.All property)
    (h : assembler.read registry line chunk = .ok next) : next.All property := by
  unfold Assembler.read at h
  split at h
  · obtain ⟨-, -, h⟩ := bind_ok h
    obtain ⟨condition, tested, h⟩ := bind_ok h
    cases h
    exact (all.settle emits).emit (emits.branch tested)
  · obtain ⟨conditional, -, h⟩ := bind_ok h
    obtain ⟨-, -, h⟩ := bind_ok h
    obtain ⟨condition, tested, h⟩ := bind_ok h
    cases h
    exact (all.leave emits line conditional).emit (emits.branch tested)
  · obtain ⟨conditional, -, h⟩ := bind_ok h
    obtain ⟨-, -, h⟩ := bind_ok h
    obtain ⟨-, -, h⟩ := bind_ok h
    cases h
    exact all.leave emits line conditional
  · split at h
    · exact (all.settle emits).separate h
    · exact all.separate h
  · obtain ⟨step, spelt, h⟩ := bind_ok h
    exact ((all.settle emits).emit (emits.perform spelt)).separate h

/-! ### Statements up to their targets -/

def emitted (assembler : Assembler) : Block := assembler.statements.map (Statement.retarget 0)

theorem map_retarget_redirect (target : Nat) (block : Block) (index : Nat) :
    (block.redirect target index).map (Statement.retarget 0) =
      block.map (Statement.retarget 0) := by
  unfold Block.redirect
  induction block generalizing index with
  | nil => rw [List.modify_nil]
  | cons first rest ih =>
    cases index with
    | zero =>
      obtain ⟨line, command⟩ := first
      rw [List.modify_zero_cons]
      cases command with
      | perform step => rfl
      | branch condition target => rfl
      | jump target => rfl
    | succ index => rw [List.modify_succ_cons, List.map_cons, ih, List.map_cons]

@[simp] theorem emitted_emit (assembler : Assembler) (line : Nat) (command : Command) :
    (assembler.emit line command).emitted =
      assembler.emitted ++ [Statement.retarget 0 ⟨line, command⟩] := List.map_append

@[simp] theorem emitted_patchBranch (assembler : Assembler) (conditional : Conditional) :
    (assembler.patchBranch conditional).emitted = assembler.emitted := by
  unfold patchBranch
  split
  · exact map_retarget_redirect _ _ _
  · rfl

@[simp] theorem emitted_settle (assembler : Assembler) :
    assembler.settle.emitted = assembler.emitted := by
  have folded : ∀ (jumps : List Nat) (target : Nat) (block : Block),
      (jumps.foldl (Block.redirect target) block).map (Statement.retarget 0) =
        block.map (Statement.retarget 0) := by
    intro jumps target
    induction jumps with
    | nil => exact fun _ => rfl
    | cons index jumps ih =>
      intro block
      rw [List.foldl_cons, ih, map_retarget_redirect]
  unfold settle
  split
  · rfl
  · next conditional _ =>
    have cleared := emitted_patchBranch { assembler with closed := none } conditional
    exact (folded _ _ _).trans cleared

@[simp] theorem emitted_leave (assembler : Assembler) (line : Nat) (conditional : Conditional) :
    (assembler.leave line conditional).emitted = assembler.emitted ++ [⟨line, .jump 0⟩] := by
  unfold leave
  rw [emitted_patchBranch, emitted_emit]
  rfl

@[simp] theorem emitted_enter (assembler : Assembler) (line : Nat) (condition : Postfix)
    (conditional : Option Nat → Conditional) :
    (assembler.enter line condition conditional).emitted =
      assembler.emitted ++ [⟨line, .branch condition 0⟩] := List.map_append

theorem emitted_separate {assembler next : Assembler} {line : Nat} {terminator : Option Lexeme}
    (h : assembler.separate line terminator = .ok next) : next.emitted = assembler.emitted := by
  unfold separate at h
  split at h
  · split at h
    · cases h
    · cases h
      rfl
  · cases h
  · cases h
    rfl

theorem emitted_finish {block : Block} (h : assembler.finish = .ok block) :
    block.map (Statement.retarget 0) = assembler.emitted := by
  unfold finish at h
  split at h
  · cases h
    exact assembler.emitted_settle
  · cases h

end Assembler

theorem compile_all {registry : Option Registry} {property : Statement → Prop} {source : String}
    {block : Block} (emits : EmitsOnly registry property)
    (compiled : compile registry source = .ok block) : ∀ statement ∈ block, property statement := by
  obtain ⟨assembler, folded, finished⟩ := bind_ok compiled
  have none : Assembler.start.All property := by
    intro statement member
    cases member
  have all : assembler.All property :=
    Chunk.foldLines_preserves (fun _ _ _ _ all read => all.read emits read) none folded
  unfold Assembler.finish at finished
  split at finished
  · cases finished
    exact all.settle emits
  · cases finished

end EventScript
