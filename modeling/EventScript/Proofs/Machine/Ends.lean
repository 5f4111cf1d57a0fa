import EventScript.Proofs.Computation
import EventScript.Proofs.Program.Tree

/-!
# Ends of the machine

The machine goes on at whatever index a statement gives, and need not come to an end. Over a block
whose targets lie ahead it ends, with what one pass over the block gives.
-/

namespace EventScript

namespace Block

/-- Whether all targets lie ahead of their statements, the first of which has the given index, and
none lies beyond `limit`. -/
def Forward (index limit : Nat) : Block → Prop
  | [] => True
  | statement :: block =>
    (∀ target ∈ statement.command.target?, index < target ∧ target ≤ limit) ∧
      Forward (index + 1) limit block

instance Forward.decidable (index limit : Nat) :
    (block : Block) → Decidable (Forward index limit block)
  | [] => isTrue trivial
  | statement :: block =>
    haveI := Forward.decidable (index + 1) limit block
    inferInstanceAs <| Decidable <|
      (∀ target ∈ statement.command.target?, index < target ∧ target ≤ limit) ∧
        Forward (index + 1) limit block

theorem forward_append (index limit : Nat) (first second : Block) :
    Forward index limit (first ++ second) ↔
      Forward index limit first ∧ Forward (index + first.length) limit second := by
  induction first generalizing index with
  | nil => simp [Forward]
  | cons statement first ih =>
    rw [List.cons_append, Forward, Forward, ih, List.length_cons, Nat.add_assoc, Nat.add_comm 1,
      and_assoc]

theorem Forward.drop {index limit : Nat} {block : Block} (forward : Forward index limit block)
    (count : Nat) : Forward (index + count) limit (block.drop count) := by
  induction block generalizing index count with
  | nil => rw [List.drop_nil]; trivial
  | cons statement block ih =>
    cases count with
    | zero => exact forward
    | succ count =>
      have rest := ih forward.2 count
      rw [Nat.add_right_comm] at rest
      exact rest

end Block

/-- A program becomes statements with targets ahead, up to right behind the last statement. -/
theorem Program.forward_flatten (program : Program) (start : Nat) {limit : Nat}
    (within : start + program.size ≤ limit) :
    Block.Forward start limit (program.flatten start) := by
  induction program generalizing start with
  | empty => trivial
  | step before line action ih =>
    rw [size] at within
    rw [flatten, Block.forward_append]
    refine ⟨ih start (by omega), ?_, trivial⟩
    rintro _ ⟨⟩
  | when before line condition body ihBefore ihBody =>
    rw [size] at within
    rw [flatten, Block.forward_append, length_flatten]
    refine ⟨ihBefore start (by omega), ?_, ihBody _ (by omega)⟩
    rintro _ ⟨⟩
    omega
  | choose before line condition body elseLine alternative ihBefore ihBody ihAlternative =>
    rw [size] at within
    rw [flatten, Block.forward_append, Block.forward_append, List.length_append, List.length_cons,
      length_flatten, length_flatten]
    refine ⟨⟨ihBefore start (by omega), ?_, ihBody _ (by omega)⟩, ?_, ?_⟩
    · rintro _ ⟨⟩
      omega
    · rintro _ ⟨⟩
      omega
    · have position : start + (before.size + (body.size + 1)) + 1 =
          start + before.size + 1 + body.size + 1 := by omega
      rw [position]
      exact ihAlternative _ (by omega)

namespace Machine

variable {σ : Type} [EventSink σ]

/-- How the machine ends that goes on at `pc`: it carries out the statement there and whatever
statement each one leads to, until that is none of the block. -/
inductive Ends (context : Context) (block : Block) :
    Execution → Nat → Memory σ → Except Failure Execution × Memory σ → Prop where
  | outside {execution : Execution} {pc : Nat} {memory : Memory σ} (outside : block.length ≤ pc) :
    Ends context block execution pc memory (.ok execution, memory)
  | failed {execution : Execution} {pc : Nat} {memory after : Memory σ} {failure : Failure}
    (inside : pc < block.length)
    (failed : carryOut context execution pc block[pc] memory = (.error failure, after)) :
    Ends context block execution pc memory (.error failure, after)
  | turn {execution later : Execution} {pc next : Nat} {memory between : Memory σ}
    {outcome : Except Failure Execution × Memory σ} (inside : pc < block.length)
    (carried : carryOut context execution pc block[pc] memory = (.ok (later, next), between))
    (rest : Ends context block later next between outcome) :
    Ends context block execution pc memory outcome

section Ends

variable {context : Context} {block : Block} {execution : Execution} {pc : Nat}
  {memory : Memory σ} {outcome : Except Failure Execution × Memory σ}

theorem ends_outside_iff (outside : block.length ≤ pc) :
    Ends context block execution pc memory outcome ↔ outcome = (.ok execution, memory) := by
  constructor
  · intro ends
    cases ends with
    | outside => rfl
    | failed inside => omega
    | turn inside => omega
  · rintro rfl
    exact .outside outside

theorem ends_inside_iff (inside : pc < block.length) :
    Ends context block execution pc memory outcome ↔
      match carryOut context execution pc block[pc] memory with
      | (.ok (later, next), between) => Ends context block later next between outcome
      | (.error failure, after) => outcome = (.error failure, after) := by
  constructor
  · intro ends
    cases ends with
    | outside outside => omega
    | failed _ failed => rw [failed]
    | turn _ carried rest =>
      rw [carried]
      exact rest
  · intro outcomes
    rcases carried : carryOut context execution pc block[pc] memory with
      ⟨failure | ⟨later, next⟩, between⟩
    · rw [carried] at outcomes
      subst outcomes
      exact .failed inside carried
    · rw [carried] at outcomes
      exact .turn inside carried outcomes

end Ends

/-- A pass over statements that it passes over at first starts behind them. -/
theorem runFrom_drop (context : Context) (execution : Execution) {index resume : Nat}
    (block : Block) (ahead : index ≤ resume) :
    runFrom (σ := σ) context execution index resume block =
      runFrom context execution resume resume (block.drop (resume - index)) := by
  induction block generalizing index with
  | nil => rw [List.drop_nil]; rfl
  | cons statement block ih =>
    rcases Nat.lt_or_eq_of_le ahead with early | rfl
    · have count : resume - index = resume - (index + 1) + 1 := by omega
      rw [runFrom, if_pos early, ih early, count]
      rfl
    · rw [Nat.sub_self]
      rfl

/-- A run goes on behind the statement or at its target. -/
theorem carryOut_next {context : Context} {execution after : Execution} {index next : Nat}
    {statement : Statement} {memory left : Memory σ}
    (h : carryOut context execution index statement memory = (.ok (after, next), left)) :
    next = index + 1 ∨ next ∈ statement.command.target? := by
  obtain ⟨line, command⟩ := statement
  cases command with
  | perform step =>
    obtain ⟨last, between, -, h⟩ := Run.bind_ok h
    cases h
    exact .inl rfl
  | branch condition target =>
    obtain ⟨holds, between, -, h⟩ := Run.bind_ok h
    cases h
    cases holds with
    | true => exact .inl rfl
    | false => exact .inr rfl
  | jump target =>
    cases h
    exact .inr rfl

theorem ends_iff_runFrom {context : Context} {block : Block} {limit : Nat}
    (forward : block.Forward 0 limit) (execution : Execution) (pc : Nat) (memory : Memory σ)
    (outcome : Except Failure Execution × Memory σ) :
    Ends context block execution pc memory outcome ↔
      outcome = runFrom context execution pc pc (block.drop pc) memory := by
  induction left : block.length - pc using Nat.strongRecOn generalizing execution pc memory with
  | ind size ih =>
    subst left
    rcases Nat.lt_or_ge pc block.length with inside | outside
    · have ahead := forward.drop pc
      rw [List.drop_eq_getElem_cons inside, Nat.zero_add] at ahead
      rw [ends_inside_iff inside, List.drop_eq_getElem_cons inside, runFrom,
        if_neg (Nat.lt_irrefl pc), Run.bind_apply]
      rcases carried : carryOut context execution pc block[pc] memory with
        ⟨failure | ⟨later, next⟩, between⟩
      · rfl
      · have further : pc < next := by
          rcases carryOut_next carried with rfl | target
          · exact Nat.lt_succ_self pc
          · exact (ahead.1 next target).1
        have count : pc + 1 + (next - (pc + 1)) = next := by omega
        dsimp only
        rw [ih (block.length - next) (by omega) later next between rfl,
          runFrom_drop context later _ further, List.drop_drop, count]
    · rw [ends_outside_iff outside, List.drop_eq_nil_of_le outside]
      rfl

/-- Over a block with targets ahead the machine ends, and as one pass over the block does. -/
theorem ends_iff_run {context : Context} {block : Block} {limit : Nat}
    (forward : block.Forward 0 limit) (memory : Memory σ)
    (outcome : Except Failure Execution × Memory σ) :
    Ends context block {} 0 memory outcome ↔ outcome = run context block memory :=
  ends_iff_runFrom forward {} 0 memory outcome

end Machine

end EventScript
