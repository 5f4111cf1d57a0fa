import EventScript.Proofs.Expression.Balance
import EventScript.Proofs.Machine.Safety
import EventScript.Proofs.Machine.Stacks
import Mathlib.Data.List.Forall2

/-!
# Counted and real stacks

Any code, whether an expression was compiled to it or not, is counted through before it runs: how
deep its stack will be, and which instruction, if any, will miss a value. The run bears the count
out, as long as the functions that the code calls are registered and give values.
-/

namespace EventScript

def Instruction.Gives (registry : Registry) : Instruction → Prop
  | call name _ => ∃ function, registry.get? name = some function ∧ function.returnsValue = true
  | _ => True

namespace Postfix

/-- The indices, counted from `index`, of the instructions that pushed the values on the stack, after
the code ran on a stack of values that the instructions in `below` pushed. The top is last. -/
def pushersFrom (index : Nat) (below : List Nat) : Postfix → List Nat
  | [] => below
  | instruction :: code =>
    pushersFrom (index + 1) (below.take (below.length - instruction.pops) ++ [index]) code

def pushers (code : Postfix) : List Nat := pushersFrom 0 [] code

theorem pushersFrom_snoc (index : Nat) (below : List Nat) (code : Postfix)
    (instruction : Instruction) :
    pushersFrom index below (code ++ [instruction]) =
      (pushersFrom index below code).take
        ((pushersFrom index below code).length - instruction.pops) ++ [index + code.length] := by
  induction code generalizing index below with
  | nil => rfl
  | cons first code ih =>
    rw [List.cons_append, pushersFrom, ih, pushersFrom, List.length_cons, Nat.add_right_comm,
      Nat.add_assoc]

theorem pushers_snoc (code : Postfix) (instruction : Instruction) :
    pushers (code ++ [instruction]) =
      (pushers code).take ((pushers code).length - instruction.pops) ++ [code.length] := by
  have snoc := pushersFrom_snoc 0 [] code instruction
  rwa [Nat.zero_add] at snoc

example : pushers [.load "name", .push (.text "ship"), .operate .equal, .load "title"] = [2, 3] :=
  rfl

variable {code : Postfix} {index : Nat} {instruction : Instruction}

theorem eq_take_append (here : code[index]? = some instruction) :
    code = code.take index ++ instruction :: code.drop (index + 1) := by
  obtain ⟨inside, rfl⟩ := List.getElem?_eq_some_iff.mp here
  rw [← List.drop_eq_getElem_cons inside, List.take_append_drop]

theorem le_of_depthFrom_error {start depth place : Nat}
    (fails : depthFrom start depth code = .error place) : start ≤ place := by
  induction code generalizing start depth with
  | nil => cases fails
  | cons instruction code ih =>
    rw [depthFrom] at fails
    split at fails
    · exact Nat.le_of_succ_le (ih fails)
    · cases fails
      exact Nat.le_refl _

/-- The count at an instruction decides whether it goes on behind it. -/
theorem stackEffect_at {depth : Nat} (here : code[index]? = some instruction)
    (effect : stackEffect (code.take index) = .ok depth) :
    code.stackEffect =
      if instruction.pops ≤ depth then
        depthFrom (index + 1) (depth - instruction.pops + 1) (code.drop (index + 1))
      else .error index := by
  have inside : index ≤ code.length :=
    Nat.le_of_lt (List.getElem?_eq_some_iff.mp here).1
  unfold stackEffect at effect ⊢
  conv => lhs; rw [eq_take_append here]
  rw [depthFrom_append, effect, List.length_take_of_le inside, Nat.zero_add]
  rfl

end Postfix

namespace Machine

variable {σ : Type} {context : Context}

/-! ### One instruction -/

def LoadsUnknown (context : Context) (memory : Memory σ) : Instruction → Prop
  | .load name => context.lookup memory name = none
  | _ => False

theorem push_ok {slot : Slot} {stack after : List Slot} (pushed : context.push slot stack = .ok after) :
    after = slot :: stack := by
  unfold Context.push at pushed
  split at pushed
  · cases pushed
    rfl
  · cases pushed

theorem pop_ok {count : Nat} {stack slots rest : List Slot}
    (popped : Slot.pop count stack = .ok (slots, rest)) :
    count ≤ stack.length ∧ rest = stack.drop count := by
  unfold Slot.pop at popped
  split at popped
  · next enough =>
    cases popped
    exact ⟨enough, rfl⟩
  · cases popped

theorem unset_of_resolve {memory : Memory σ} {name : String} {slot : Slot}
    (resolved : context.resolve memory name = .ok slot) :
    slot.unset = true ↔ context.lookup memory name = none := by
  unfold Context.resolve at resolved
  split at resolved
  · next value found =>
    cases resolved
    simp [found]
  · next unknown =>
    split at resolved
    · cases resolved
    · cases resolved
      simp [unknown]

variable [EventSink σ]

theorem execute_short {instruction : Instruction} {stack : List Slot}
    (gives : instruction.Gives context.registry) (short : stack.length < instruction.pops)
    (memory : Memory σ) :
    execute context instruction stack memory = (.error (.fault .stackUnderflow), memory) := by
  have underflow : Slot.pop instruction.pops stack = .error (.fault .stackUnderflow) :=
    if_neg (Nat.not_le.mpr short)
  cases instruction with
  | push value => cases short
  | load name => cases short
  | operate op =>
    rw [Instruction.pops] at underflow
    rw [execute, underflow]
    rfl
  | call name count =>
    obtain ⟨function, found, -⟩ := gives
    rw [Instruction.pops] at underflow
    rw [execute, found]
    dsimp only
    rw [underflow]
    rfl

/-- An instruction that is carried out finds the values that it takes, and leaves one in their
place. That one is flagged exactly if the instruction loads a name that nothing defines. -/
theorem execute_ok {instruction : Instruction} {stack after : List Slot}
    {memory between : Memory σ} (gives : instruction.Gives context.registry)
    (executed : execute context instruction stack memory = (.ok after, between)) :
    instruction.pops ≤ stack.length ∧
      ∃ slot, after = slot :: stack.drop instruction.pops ∧
        (slot.unset = true ↔ LoadsUnknown context memory instruction) := by
  cases instruction with
  | push value =>
    have pushed := Run.ofExcept_ok executed
    exact ⟨Nat.zero_le _, ⟨value, false⟩, push_ok pushed, by simp [LoadsUnknown]⟩
  | load name =>
    obtain ⟨_, _, got, read⟩ := Run.bind_ok executed
    cases got
    obtain ⟨slot, resolved, ended⟩ := Run.ofExcept_bind_ok read
    exact ⟨Nat.zero_le _, slot, push_ok (Run.ofExcept_ok ended), unset_of_resolve resolved⟩
  | operate op =>
    obtain ⟨⟨slots, rest⟩, popped, applied⟩ := Run.ofExcept_bind_ok executed
    obtain ⟨enough, rfl⟩ := pop_ok popped
    dsimp only at applied
    cases computed : op.apply (Slot.operands slots) with
    | error cause =>
      rw [computed] at applied
      cases applied
    | ok value =>
      rw [computed] at applied
      have pushed := Run.ofExcept_ok applied
      exact ⟨enough, ⟨value, false⟩, push_ok pushed, by simp [LoadsUnknown]⟩
  | call name count =>
    obtain ⟨function, found, returns⟩ := gives
    rw [execute, found] at executed
    obtain ⟨⟨slots, rest⟩, popped, called⟩ := Run.ofExcept_bind_ok executed
    obtain ⟨enough, rfl⟩ := pop_ok popped
    obtain ⟨result, _, -, ended⟩ := Run.bind_ok called
    rw [returns] at ended
    cases result with
    | none => cases ended
    | some value =>
      have pushed := Run.ofExcept_ok ended
      exact ⟨enough, ⟨value, false⟩, push_ok pushed, by simp [LoadsUnknown]⟩

/-! ### Runs of code -/

theorem executeAll_append (context : Context) (front rest : Postfix) (stack : List Slot) :
    (executeAll context (front ++ rest) stack : Run σ Halt (List Slot)) =
      executeAll context front stack >>= executeAll context rest := by
  induction front generalizing stack with
  | nil =>
    rw [executeAll, pure_bind]
    rfl
  | cons instruction front ih =>
    rw [List.cons_append, executeAll, executeAll, bind_assoc]
    congr 1
    funext after
    exact ih after

/-- Whether evaluation comes to the instruction at an index, or to the end of the code, with this
stack. -/
structure ComesTo (context : Context) (code : Postfix) (memory : Memory σ) (index : Nat)
    (stack : List Slot) (between : Memory σ) : Prop where
  inside : index ≤ code.length
  executed : executeAll context (code.take index) [] memory = (.ok stack, between)

def FailsAt (context : Context) (code : Postfix) (memory : Memory σ) (index : Nat) (halt : Halt)
    (after : Memory σ) : Prop :=
  ∃ instruction stack between, code[index]? = some instruction ∧
    ComesTo context code memory index stack between ∧
      execute context instruction stack between = (.error halt, after)

def LoadsUnknownAt (context : Context) (code : Postfix) (memory : Memory σ) (index : Nat) : Prop :=
  ∃ name stack between, code[index]? = some (.load name) ∧
    ComesTo context code memory index stack between ∧ context.lookup between name = none

variable {code : Postfix} {memory between after : Memory σ} {index : Nat} {stack : List Slot}
  {halt : Halt}

theorem ComesTo.unique {other : List Slot} (comes : ComesTo context code memory index stack between)
    (again : ComesTo context code memory index other after) : other = stack ∧ after = between := by
  have same := again.executed.symm.trans comes.executed
  cases same
  exact ⟨rfl, rfl⟩

/-- Behind the instruction that it comes to, evaluation goes on as after it. -/
theorem ComesTo.executeAll_eq {instruction : Instruction} {later : Nat}
    (comes : ComesTo context code memory index stack between)
    (here : code[index]? = some instruction) (behind : index < later) :
    executeAll context (code.take later) [] memory =
      (execute context instruction stack >>=
        executeAll context ((code.take later).drop (index + 1))) between := by
  have there : (code.take later)[index]? = some instruction := by
    rw [List.getElem?_take_of_lt behind, here]
  have front : (code.take later).take index = code.take index := by
    rw [List.take_take, Nat.min_eq_left (Nat.le_of_lt behind)]
  conv => lhs; rw [Postfix.eq_take_append there]
  rw [front, executeAll_append, Run.bind_apply, comes.executed]
  rfl

theorem ComesTo.exists_before (comes : ComesTo context code memory (index + 1) stack between) :
    ∃ instruction earlier mid, code[index]? = some instruction ∧
      ComesTo context code memory index earlier mid ∧
        execute context instruction earlier mid = (.ok stack, between) := by
  have inside : index < code.length := comes.inside
  have snoc : code.take (index + 1) = code.take index ++ [code[index]] := by
    rw [List.take_add_one, List.getElem?_eq_getElem inside]
    rfl
  have executed := comes.executed
  rw [snoc, executeAll_append] at executed
  obtain ⟨earlier, mid, first, last⟩ := Run.bind_ok executed
  rw [executeAll] at last
  obtain ⟨_, _, last, ended⟩ := Run.bind_ok last
  cases ended
  exact ⟨code[index], earlier, mid, List.getElem?_eq_getElem inside,
    ⟨Nat.le_of_lt inside, first⟩, last⟩

/-- Evaluation fails at no instruction that it comes past. -/
theorem FailsAt.le (fails : FailsAt context code memory index halt after) {later : Nat}
    (comes : ComesTo context code memory later stack between) : later ≤ index := by
  obtain ⟨instruction, reached, mid, here, arrives, halted⟩ := fails
  by_contra beyond
  have executed := comes.executed
  rw [arrives.executeAll_eq here (Nat.not_le.mp beyond), Run.bind_apply, halted] at executed
  cases executed

theorem exists_failure {stack : List Slot}
    (failed : executeAll context code stack memory = (.error halt, after)) :
    ∃ front instruction rest reached between, code = front ++ instruction :: rest ∧
      executeAll context front stack memory = (.ok reached, between) ∧
        execute context instruction reached between = (.error halt, after) := by
  induction code generalizing stack memory with
  | nil => cases failed
  | cons first code ih =>
    rcases Run.bind_error failed with halted | ⟨next, mid, executed, later⟩
    · exact ⟨[], first, code, stack, memory, rfl, rfl, halted⟩
    · obtain ⟨front, instruction, rest, reached, between, rfl, ran, halted⟩ := ih later
      refine ⟨first :: front, instruction, rest, reached, between, rfl, ?_, halted⟩
      rw [executeAll, Run.bind_apply, executed]
      exact ran

/-- Evaluation fails where one of the instructions does, and only there. -/
theorem evaluate_eq_error_iff :
    evaluate context code memory = (.error halt, after) ↔
      ∃ index, FailsAt context code memory index halt after := by
  constructor
  · intro failed
    have halted : executeAll context code [] memory = (.error halt, after) := by
      rcases Run.bind_error failed with halted | ⟨_, _, _, finished⟩
      · exact halted
      · cases finished
    obtain ⟨front, instruction, rest, reached, between, rfl, ran, halted⟩ := exists_failure halted
    refine ⟨front.length, instruction, reached, between, by simp, ⟨by simp, ?_⟩, halted⟩
    rwa [List.take_left]
  · rintro ⟨index, instruction, reached, between, here, comes, halted⟩
    have inside : index < code.length := (List.getElem?_eq_some_iff.mp here).1
    have whole := comes.executeAll_eq here inside
    rw [List.take_length, Run.bind_apply, halted] at whole
    rw [evaluate, Run.bind_apply, whole]

/-- Evaluation fails at an instruction or comes to the end of the code. -/
theorem exists_failsAt_or_comesTo (context : Context) (code : Postfix) (memory : Memory σ) :
    (∃ index halt after, FailsAt context code memory index halt after) ∨
      ∃ stack after, ComesTo context code memory code.length stack after := by
  rcases ended : executeAll context code [] memory with ⟨halt | stack, after⟩
  · have failed : evaluate context code memory = (.error halt, after) := by
      rw [evaluate, Run.bind_apply, ended]
    obtain ⟨index, fails⟩ := evaluate_eq_error_iff.mp failed
    exact .inl ⟨index, halt, after, fails⟩
  · exact .inr ⟨stack, after, Nat.le_refl _, by rwa [List.take_length]⟩

theorem ComesTo.evaluate_eq (comes : ComesTo context code memory code.length stack after) :
    Stacks.evaluate context code memory =
      (.ok ((Stacks.ofSlots stack).values.getLast?, (Stacks.ofSlots stack).values.dropLast),
        after) := by
  have ran := comes.executed
  rw [List.take_length] at ran
  have halves : Stacks.executeAll context code {} memory = (.ok (Stacks.ofSlots stack), after) :=
    Stacks.executeAll_eq_ok_iff.mpr ⟨stack, ran, rfl⟩
  rw [Stacks.evaluate, Run.bind_apply, halves]
  rfl

/-! ### The count and the run -/

theorem loadsUnknownAt_iff {instruction : Instruction} (here : code[index]? = some instruction)
    (comes : ComesTo context code memory index stack between) :
    LoadsUnknownAt context code memory index ↔ LoadsUnknown context between instruction := by
  constructor
  · rintro ⟨name, other, last, there, again, unknown⟩
    obtain ⟨rfl, rfl⟩ := comes.unique again
    rw [here] at there
    cases there
    exact unknown
  · intro unknown
    cases instruction with
    | load name => exact ⟨name, stack, between, here, comes, unknown⟩
    | push | operate | call => cases unknown

section Count

variable (gives : ∀ instruction ∈ code, instruction.Gives context.registry)

include gives

/-- Where evaluation comes, the stack is as deep as the count says. -/
theorem ComesTo.stackEffect_take (comes : ComesTo context code memory index stack between) :
    Postfix.stackEffect (code.take index) = .ok stack.length := by
  induction index generalizing stack between with
  | zero =>
    cases comes.executed
    rfl
  | succ index ih =>
    obtain ⟨instruction, earlier, mid, here, before, executed⟩ := comes.exists_before
    obtain ⟨enough, slot, rfl, -⟩ := execute_ok (gives _ (List.mem_of_getElem? here)) executed
    have counted := Postfix.stackEffect_snoc (ih before) enough
    rw [List.take_add_one, here, List.length_cons, List.length_drop]
    exact counted

/-- Each slot is flagged exactly if what pushed it is a load of a name that nothing defined. -/
theorem ComesTo.flagged (comes : ComesTo context code memory index stack between) :
    List.Forall₂ (fun slot place => slot.unset = true ↔ LoadsUnknownAt context code memory place)
      stack.reverse (Postfix.pushers (code.take index)) := by
  induction index generalizing stack between with
  | zero =>
    cases comes.executed
    exact .nil
  | succ index ih =>
    obtain ⟨instruction, earlier, mid, here, before, executed⟩ := comes.exists_before
    obtain ⟨enough, slot, rfl, unset⟩ := execute_ok (gives _ (List.mem_of_getElem? here)) executed
    have below := ih before
    have depth := below.length_eq
    rw [List.length_reverse] at depth
    have pushed : Postfix.pushers (code.take (index + 1)) =
        (Postfix.pushers (code.take index)).take (earlier.length - instruction.pops) ++ [index] := by
      have inside : index ≤ code.length := Nat.le_of_succ_le comes.inside
      have snoc := Postfix.pushers_snoc (code.take index) instruction
      rw [List.length_take_of_le inside, ← depth] at snoc
      rw [List.take_add_one, here]
      exact snoc
    -- The slots that stay keep what pushed them; the new one is the instruction's.
    rw [pushed, List.reverse_cons, List.reverse_drop]
    refine List.rel_append (List.forall₂_take _ below) (.cons ?_ .nil)
    rw [unset, loadsUnknownAt_iff here before]

/-- An instruction that halts for want of values is the one where the count ends. Any other that
halts stands before that one, if there is one. -/
theorem FailsAt.stackEffect (fails : FailsAt context code memory index halt after) :
    halt = .fault .stackUnderflow ∧ code.stackEffect = .error index ∨
      halt ≠ .fault .stackUnderflow ∧ ∀ place, code.stackEffect = .error place → index < place := by
  obtain ⟨instruction, stack, between, here, comes, halted⟩ := fails
  -- The stack is as deep as the count says, so both find the same instruction short of values.
  have effect := Postfix.stackEffect_at here (comes.stackEffect_take gives)
  by_cases enough : instruction.pops ≤ stack.length
  · rw [if_pos enough] at effect
    refine .inr ⟨?_, fun place failed => ?_⟩
    · rintro rfl
      have short : stack.length < instruction.pops := (execute_yields instruction stack).error halted
      omega
    · rw [effect] at failed
      exact Postfix.le_of_depthFrom_error failed
  · rw [if_neg enough] at effect
    have short := execute_short (gives _ (List.mem_of_getElem? here)) (Nat.not_le.mp enough) between
    rw [halted] at short
    cases short
    exact .inl ⟨rfl, effect⟩

/-- Where the count misses a value, evaluation does not come to the end of the code. -/
theorem exists_failsAt {place : Nat} (short : code.stackEffect = .error place)
    (memory : Memory σ) : ∃ index halt after, FailsAt context code memory index halt after := by
  rcases exists_failsAt_or_comesTo context code memory with fails | ⟨stack, after, comes⟩
  · exact fails
  · have counted := comes.stackEffect_take gives
    rw [List.take_length, short] at counted
    cases counted

end Count

/-- The count of any code foretells its evaluation, whatever it is evaluated with, if the functions
that it calls are registered and give values. Where the count misses a value at an instruction,
evaluation fails there or before, and with an underflow exactly if it comes there. Where the count
misses none, evaluation never fails with an underflow, and if no instruction fails it gives a value
exactly if the count is positive, and leaves the others below. With values and flags on two stacks,
evaluation is the same; wherever it comes, there are as many flags as values, and these are as many
as the count says; and a flag is raised exactly if what pushed the value is a load of a name that
nothing defined. -/
theorem evaluate_follows_stackEffect {context : Context} {code : Postfix}
    (gives : ∀ instruction ∈ code, instruction.Gives context.registry) (memory : Memory σ) :
    (∀ place, code.stackEffect = .error place →
      ∃ index halt after, FailsAt context code memory index halt after ∧
        evaluate context code memory = (.error halt, after) ∧ index ≤ place ∧
        (halt = .fault .stackUnderflow ↔ index = place) ∧
        (halt = .fault .stackUnderflow ↔
          ∃ stack between, ComesTo context code memory place stack between)) ∧
    (∀ depth, code.stackEffect = .ok depth →
      (∀ after, evaluate context code memory ≠ (.error (.fault .stackUnderflow), after)) ∧
      ((∀ index halt after, ¬ FailsAt context code memory index halt after) →
        ∃ value left after, evaluate context code memory = (.ok value, after) ∧
          Stacks.evaluate context code memory = (.ok (value, left), after) ∧
          (value.isSome = true ↔ 0 < depth) ∧ left.length = depth - 1)) ∧
    evaluate context code memory = (Prod.fst <$> Stacks.evaluate context code) memory ∧
    ∀ index ≤ code.length, ∀ both between,
      Stacks.executeAll context (code.take index) {} memory = (.ok both, between) →
        both.unset.length = both.values.length ∧
        Postfix.stackEffect (code.take index) = .ok both.values.length ∧
        List.Forall₂ (fun flag place => flag = true ↔ LoadsUnknownAt context code memory place)
          both.unset (Postfix.pushers (code.take index)) := by
  refine ⟨?_, fun depth counted => ⟨?_, ?_⟩, by rw [Stacks.evaluate_eq], ?_⟩
  · intro place short
    obtain ⟨index, halt, after, fails⟩ := exists_failsAt gives short memory
    refine ⟨index, halt, after, fails, evaluate_eq_error_iff.mpr ⟨index, fails⟩, ?_⟩
    rcases fails.stackEffect gives with ⟨rfl, effect⟩ | ⟨other, before⟩
    · rw [short] at effect
      cases effect
      obtain ⟨_, stack, between, _, comes, _⟩ := fails
      simpa using ⟨stack, between, comes⟩
    · have earlier := before place short
      refine ⟨Nat.le_of_lt earlier, iff_of_false other (Nat.ne_of_lt earlier), ?_⟩
      refine iff_of_false other ?_
      rintro ⟨stack, between, comes⟩
      exact Nat.not_le_of_lt earlier (fails.le comes)
  · intro after failed
    obtain ⟨index, fails⟩ := evaluate_eq_error_iff.mp failed
    rcases fails.stackEffect gives with ⟨-, effect⟩ | ⟨other, -⟩
    · rw [counted] at effect
      cases effect
    · exact other rfl
  · intro sound
    rcases exists_failsAt_or_comesTo context code memory with fails | ⟨stack, after, comes⟩
    · obtain ⟨index, halt, after, fails⟩ := fails
      exact absurd fails (sound index halt after)
    · have deep := comes.stackEffect_take gives
      rw [List.take_length] at deep
      obtain rfl : depth = stack.length := Except.ok.inj (counted.symm.trans deep)
      refine ⟨_, _, after, ?_, comes.evaluate_eq, ?_, ?_⟩
      · rw [Stacks.evaluate_eq]
        exact Run.map_eq_ok_iff.mpr ⟨_, comes.evaluate_eq, rfl⟩
      · simp [Stacks.ofSlots, List.length_pos_iff]
      · rw [List.length_dropLast, Stacks.length_values]
  · intro index inside both between ran
    obtain ⟨stack, executed, rfl⟩ := Stacks.executeAll_eq_ok_iff.mp ran
    have comes : ComesTo context code memory index stack between := ⟨inside, executed⟩
    refine ⟨by simp, ?_, ?_⟩
    · rw [comes.stackEffect_take gives, Stacks.length_values]
    · have flagged := comes.flagged gives
      rw [Stacks.ofSlots, List.forall₂_map_left_iff]
      exact flagged

/-- The call finds one value, of the two that it takes. -/
theorem evaluate_follows_stackEffect_first :
    let registry := Registry.ofList
      [("first", { arity := .atLeast 1, handler := fun _ values => .done values.head? })]
    let context : Context := { registry }
    let code : Postfix := [.load "name", .push (.text "ship"), .operate .equal, .call "first" 2]
    let memory : Memory (Array Event) := ⟨.empty, none, #[], {}⟩
    (∀ instruction ∈ code, instruction.Gives context.registry) ∧ code.stackEffect = .error 3 ∧
      evaluate context code memory = (.error (.fault .stackUnderflow), memory) ∧
      ∃ stack between, ComesTo context code memory 3 stack between := by
  intro registry context code memory
  have found : registry.get? "first" =
      some { arity := .atLeast 1, handler := fun _ values => .done values.head? } := by
    simp [registry, Registry.get?, Registry.ofList]
  have gives : ∀ instruction ∈ code, instruction.Gives context.registry := by
    simp only [code, List.forall_mem_cons]
    exact ⟨trivial, trivial, trivial, ⟨_, found, rfl⟩, nofun⟩
  have short : code.stackEffect = .error 3 := rfl
  have failed : evaluate context code memory = (.error (.fault .stackUnderflow), memory) := by
    rfl
  obtain ⟨index, halt, after, -, ended, -, -, reached⟩ :=
    (evaluate_follows_stackEffect gives memory).1 3 short
  rw [failed] at ended
  cases ended
  exact ⟨gives, short, failed, reached.mp rfl⟩

end Machine

end EventScript
