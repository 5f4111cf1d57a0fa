import EventScript.Proofs.Machine.Moved
import EventScript.Proofs.Program.Joining

/-!
# Progress

Which statements a run carries out. Over a compiled block the machine only goes ahead: it comes to
an end, and carries out no statement twice.
-/

namespace EventScript

theorem Block.Forward.target {limit : Nat} {block : Block} (forward : block.Forward 0 limit)
    {index target : Nat} (inside : index < block.length)
    (leads : target ∈ block[index].command.target?) : index < target ∧ target ≤ limit := by
  have ahead := forward.drop index
  rw [Nat.zero_add, List.drop_eq_getElem_cons inside] at ahead
  exact ahead.1 target leads

namespace Machine

variable {σ : Type} [EventSink σ]

/-- How the machine ends that goes on at `pc`, with the indices of the statements that it carries
out until then, in order. -/
inductive Visits (context : Context) (block : Block) :
    Execution → Nat → Memory σ → List Nat → Except Failure Execution × Memory σ → Prop where
  | outside {execution : Execution} {pc : Nat} {memory : Memory σ} (outside : block.length ≤ pc) :
    Visits context block execution pc memory [] (.ok execution, memory)
  | failed {execution : Execution} {pc : Nat} {memory after : Memory σ} {failure : Failure}
    (inside : pc < block.length)
    (failed : carryOut context execution pc block[pc] memory = (.error failure, after)) :
    Visits context block execution pc memory [pc] (.error failure, after)
  | turn {execution later : Execution} {pc next : Nat} {memory between : Memory σ}
    {indices : List Nat} {outcome : Except Failure Execution × Memory σ}
    (inside : pc < block.length)
    (carried : carryOut context execution pc block[pc] memory = (.ok (later, next), between))
    (rest : Visits context block later next between indices outcome) :
    Visits context block execution pc memory (pc :: indices) outcome

section Visits

variable {context : Context} {block : Block} {execution : Execution} {pc : Nat}
  {memory : Memory σ} {indices : List Nat} {outcome : Except Failure Execution × Memory σ}

theorem Ends.exists_visits (ends : Ends context block execution pc memory outcome) :
    ∃ indices, Visits context block execution pc memory indices outcome := by
  induction ends with
  | outside outside => exact ⟨[], .outside outside⟩
  | @failed _ pc _ _ _ inside failed => exact ⟨[pc], .failed inside failed⟩
  | @turn _ _ pc _ _ _ _ inside carried _ ih =>
    obtain ⟨indices, visits⟩ := ih
    exact ⟨pc :: indices, .turn inside carried visits⟩

theorem Visits.unique (visits : Visits context block execution pc memory indices outcome)
    {others : List Nat} {other : Except Failure Execution × Memory σ}
    (again : Visits context block execution pc memory others other) :
    others = indices ∧ other = outcome := by
  induction visits generalizing others other with
  | outside outside =>
    cases again with
    | outside => exact ⟨rfl, rfl⟩
    | failed inside => omega
    | turn inside => omega
  | failed inside failed =>
    cases again with
    | outside outside => omega
    | failed _ failed' =>
      rw [failed] at failed'
      cases failed'
      exact ⟨rfl, rfl⟩
    | turn _ carried =>
      rw [failed] at carried
      cases carried
  | turn inside carried _ ih =>
    cases again with
    | outside outside => omega
    | failed _ failed =>
      rw [carried] at failed
      cases failed
    | turn _ carried' rest =>
      rw [carried] at carried'
      cases carried'
      obtain ⟨rfl, rfl⟩ := ih rest
      exact ⟨rfl, rfl⟩

/-- A run that succeeds counts the statements that it visits. -/
theorem Visits.executed (visits : Visits context block execution pc memory indices outcome)
    {final : Execution} {after : Memory σ} (succeeds : outcome = (.ok final, after)) :
    final.executed = execution.executed + indices.length := by
  induction visits with
  | outside =>
    cases succeeds
    rfl
  | failed => cases succeeds
  | turn _ carried _ ih =>
    have one := carryOut_executed context carried
    have counted := ih succeeds
    rw [List.length_cons]
    omega

/-- Where all targets lie ahead, a run goes from each statement to one behind it. -/
theorem Visits.ahead {limit : Nat} (forward : block.Forward 0 limit)
    (visits : Visits context block execution pc memory indices outcome) :
    indices.Pairwise (· < ·) ∧ (∀ index ∈ indices, pc ≤ index ∧ index < block.length) ∧
      indices.length ≤ block.length - pc := by
  induction visits with
  | outside => simp
  | failed inside =>
    refine ⟨List.pairwise_singleton _ _, ?_, ?_⟩
    · intro index member
      obtain rfl := List.mem_singleton.mp member
      exact ⟨Nat.le_refl _, inside⟩
    · rw [List.length_singleton]
      omega
  | @turn _ _ pc next _ _ indices _ inside carried _ ih =>
    obtain ⟨ordered, within, count⟩ := ih
    have further : pc < next := by
      rcases carryOut_next carried with rfl | target
      · exact Nat.lt_succ_self pc
      · exact (forward.target inside target).1
    refine ⟨List.pairwise_cons.mpr ⟨?_, ordered⟩, ?_, ?_⟩
    · intro index member
      have beyond := (within index member).1
      omega
    · intro index member
      rcases List.mem_cons.mp member with rfl | later
      · exact ⟨Nat.le_refl _, inside⟩
      · have beyond := within index later
        omega
    · rw [List.length_cons]
      omega

end Visits

theorem exists_visits_run {block : Block} {limit : Nat} (forward : block.Forward 0 limit)
    (context : Context) (memory : Memory σ) :
    ∃ indices, Visits context block {} 0 memory indices (run context block memory) :=
  ((ends_iff_run forward memory _).mpr rfl).exists_visits

end Machine

/-- The branches and jumps of a compiled block lead ahead, up to right behind its last statement.
So the machine comes to one end over it, whatever it runs with; the statements that it carries out
on the way stand one behind the other in the block, and a run that succeeds reports their number. -/
theorem compiled_block_ends {registry : Option Registry} {source : String} {block : Block}
    (compiled : compile registry source = .ok block) :
    (∀ (index : Nat) (inside : index < block.length),
      ∀ target ∈ block[index].command.target?, index < target ∧ target ≤ block.length) ∧
    ∀ (σ : Type) [EventSink σ] (context : Context) (memory : Memory σ),
      ∃ indices,
        Machine.Visits context block {} 0 memory indices (Machine.run context block memory) ∧
        (∀ others outcome, Machine.Visits context block {} 0 memory others outcome →
          others = indices ∧ outcome = Machine.run context block memory) ∧
        indices.Pairwise (· < ·) ∧
        (∀ index ∈ indices, index < block.length) ∧
        ∀ execution after, Machine.run context block memory = (.ok execution, after) →
          execution.executed = indices.length ∧ execution.executed ≤ block.length := by
  have forward := compile_forward compiled
  refine ⟨fun index inside target leads => forward.target inside leads, ?_⟩
  intro σ sink context memory
  obtain ⟨indices, visits⟩ := Machine.exists_visits_run forward context memory
  obtain ⟨ordered, within, count⟩ := visits.ahead forward
  refine ⟨indices, visits, ?_, ordered, fun index member => (within index member).2, ?_⟩
  · intro others outcome again
    exact visits.unique again
  · intro execution after ran
    have counted : execution.executed = 0 + indices.length := visits.executed ran
    omega

theorem compiled_block_ends_nested :
    ∃ block, compile none "if a { if b { c } elseif d { } } else { e }\nf" = .ok block ∧
      (∀ (index : Nat) (inside : index < block.length),
        ∀ target ∈ block[index].command.target?, index < target ∧ target ≤ block.length) ∧
      ∀ (σ : Type) [EventSink σ] (context : Context) (memory : Memory σ),
        ∃ indices,
          Machine.Visits context block {} 0 memory indices (Machine.run context block memory) ∧
          (∀ others outcome, Machine.Visits context block {} 0 memory others outcome →
            others = indices ∧ outcome = Machine.run context block memory) ∧
          indices.Pairwise (· < ·) ∧
          (∀ index ∈ indices, index < block.length) ∧
          ∀ execution after, Machine.run context block memory = (.ok execution, after) →
            execution.executed = indices.length ∧ execution.executed ≤ block.length := by
  have compiled : compile none "if a { if b { c } elseif d { } } else { e }\nf" = .ok
      [⟨1, .branch [.load "a"] 6⟩, ⟨1, .branch [.load "b"] 4⟩,
        ⟨1, .perform (.evaluate [.load "c"])⟩, ⟨1, .jump 5⟩, ⟨1, .branch [.load "d"] 5⟩,
        ⟨1, .jump 7⟩, ⟨1, .perform (.evaluate [.load "e"])⟩,
        ⟨2, .perform (.evaluate [.load "f"])⟩] :=
    eq_ok_of_toOption (by decide +kernel)
  exact ⟨_, compiled, compiled_block_ends compiled⟩

end EventScript
