import EventScript.Function.Builtin
import EventScript.Proofs.Program.Checked

/-!
# Overflow of the stack

Whether the stack overflows is decided by the code alone: by the largest depth that the stack comes
to when the effects of its instructions are added up.
-/

namespace EventScript

/-! ### Depths of code -/

/-- How much deeper the stack is after the code than before: each instruction adds what it leaves,
without what it takes. -/
def Postfix.rise (registry : Registry) : Postfix → Int
  | [] => 0
  | instruction :: code =>
    (instruction.pushes registry - instruction.pops : Int) + Postfix.rise registry code

def Postfix.Supplied (registry : Registry) (depth : Nat) : Postfix → Prop
  | [] => True
  | instruction :: code =>
    instruction.pops ≤ depth ∧
      Postfix.Supplied registry (depth - instruction.pops + instruction.pushes registry) code

namespace Postfix

variable {registry : Registry} {depth : Nat} {code : Postfix}

theorem Supplied.rise_le_need {front rest : Postfix}
    (supplied : Supplied registry depth (front ++ rest)) :
    depth + rise registry front ≤ need registry depth (front ++ rest) := by
  induction front generalizing depth with
  | nil =>
    have start := le_need registry depth rest
    rw [rise, List.nil_append]
    omega
  | cons instruction front ih =>
    rw [List.cons_append] at supplied ⊢
    obtain ⟨enough, supplied⟩ := supplied
    have later := ih supplied
    have start := need_le_cons registry depth instruction (front ++ rest)
    rw [rise]
    omega

theorem Supplied.exists_rise_eq_need (supplied : Supplied registry depth code) :
    ∃ front rest, code = front ++ rest ∧ depth + rise registry front = need registry depth code := by
  induction code generalizing depth with
  | nil => exact ⟨[], [], rfl, by rw [rise, need, Int.add_zero]⟩
  | cons instruction code ih =>
    obtain ⟨enough, supplied⟩ := supplied
    obtain ⟨front, rest, rfl, later⟩ := ih supplied
    rcases Nat.le_total depth (need registry
      (depth - instruction.pops + instruction.pushes registry) (front ++ rest)) with lower | higher
    · refine ⟨instruction :: front, rest, rfl, ?_⟩
      rw [need, Nat.max_eq_right lower, rise]
      omega
    · refine ⟨[], instruction :: (front ++ rest), rfl, ?_⟩
      rw [need, Nat.max_eq_left higher, rise, Int.add_zero]

theorem supplied_of_depthFrom {bare : Bool} {index final : Nat}
    (effect : depthFrom index depth code = .ok final)
    (agrees : code.misuse? registry bare = none) : Supplied registry depth code := by
  induction code generalizing index depth with
  | nil => trivial
  | cons instruction code ih =>
    obtain ⟨-, agrees, pushes⟩ := Machine.misuse?_cons agrees
    rw [depthFrom] at effect
    split at effect
    · next enough =>
      refine ⟨enough, ?_⟩
      rcases pushes with one | ⟨-, -, rfl⟩
      · rw [one]
        exact ih effect agrees
      · trivial
    · cases effect

/-- In code that agrees with the registry nothing is taken that is not there, so what it needs is the
largest rise of its fronts. -/
theorem Agrees.supplied {bare : Bool} (agrees : code.Agrees registry bare) :
    Supplied registry 0 code :=
  supplied_of_depthFrom agrees.1 agrees.2

end Postfix

theorem Command.Agrees.code {registry : Registry} {command : Command} {code : Postfix}
    (agrees : command.Agrees registry) (evaluated : command.code? = some code) :
    ∃ bare, code.Agrees registry bare := by
  cases command with
  | perform step =>
    cases evaluated
    cases step with
    | evaluate code => exact ⟨true, agrees⟩
    | assign scope target code => exact ⟨false, agrees⟩
  | branch condition target =>
    cases evaluated
    exact ⟨false, agrees⟩
  | jump target => cases evaluated

/-! ### Depths of the stack -/

namespace Machine

variable {σ : Type} {context : Context}

def Exceeds (context : Context) (depth : Nat) (halt : Halt) : Prop :=
  halt = .fault .stackOverflow → context.config.stackLimit < depth

theorem MayHalt.exceeds {instruction : Instruction} {stack : List Slot} {halt : Halt}
    (may : MayHalt context instruction stack halt) :
    Exceeds context (depthAfter context instruction stack) halt := by
  rintro rfl
  exact may

variable [EventSink σ]

theorem executeAll_height (code : Postfix) {stack : List Slot}
    (within : stack.length ≤ context.config.stackLimit) :
    Run.Yields (executeAll context code stack : Run σ Halt (List Slot))
      (fun after => Postfix.need context.registry stack.length code ≤ context.config.stackLimit ∧
        after.length ≤ context.config.stackLimit)
      (Exceeds context (Postfix.need context.registry stack.length code)) := by
  induction code generalizing stack with
  | nil => exact Run.yields_pure ⟨within, within⟩
  | cons instruction code ih =>
    -- The rest starts at the depth after the instruction, so what it needs the whole code needs.
    have later : Postfix.need context.registry (depthAfter context instruction stack) code ≤
        Postfix.need context.registry stack.length (instruction :: code) :=
      Postfix.need_le_cons context.registry stack.length instruction code
    have first : Run.Yields (execute context instruction stack : Run σ Halt (List Slot))
        (MayLeave context instruction stack)
        (Exceeds context (Postfix.need context.registry stack.length (instruction :: code))) := by
      refine (execute_yields instruction stack).imp (fun _ => id) fun halt may overflow => ?_
      have reached := Postfix.le_need context.registry (depthAfter context instruction stack) code
      exact Nat.lt_of_lt_of_le (may.exceeds overflow) (Nat.le_trans reached later)
    refine first.bind fun after ⟨height, stays⟩ => ?_
    have rest := ih (stays within)
    rw [height] at rest
    refine rest.imp (fun final ⟨fits, low⟩ => ⟨Nat.max_le.mpr ⟨within, fits⟩, low⟩) ?_
    intro halt exceeds overflow
    exact Nat.lt_of_lt_of_le (exceeds overflow) later

theorem evaluate_height (code : Postfix) :
    Run.Yields (evaluate context code : Run σ Halt (Option Value))
      (fun _ => Postfix.need context.registry 0 code ≤ context.config.stackLimit)
      (Exceeds context (Postfix.need context.registry 0 code)) :=
  (executeAll_height code (Nat.zero_le _)).bind fun _ ⟨fits, _⟩ => Run.yields_pure fits

end Machine

/-- What an expression of a compiled block needs is the largest depth that its instructions, one
after another, come to. It overflows only where that is beyond the limit, has no value where it is,
and at no time has more values on the stack than the limit allows. -/
theorem Block.overflow_by_need {context : Context} {source : String} {block : Block}
    (compiled : compile (some context.registry) source = .ok block) {statement : Statement}
    (stands : statement ∈ block) {code : Postfix} (evaluated : statement.command.code? = some code)
    {σ : Type} [EventSink σ] (memory : Memory σ) :
    let need := code.need context.registry 0
    (∀ front, front <+: code → Postfix.rise context.registry front ≤ need) ∧
    (∃ front, front <+: code ∧ Postfix.rise context.registry front = need) ∧
    (∀ after, Machine.evaluate context code memory = (.error (.fault .stackOverflow), after) →
      context.config.stackLimit < need) ∧
    (context.config.stackLimit < need →
      ∀ value after, Machine.evaluate context code memory ≠ (.ok value, after)) ∧
    ∀ front, front <+: code → ∀ stack between,
      Machine.executeAll context front [] memory = (.ok stack, between) →
      stack.length ≤ context.config.stackLimit := by
  have agrees := compile_all (emitsOnly_agrees context.registry) compiled statement stands
  obtain ⟨bare, agrees⟩ := agrees.code evaluated
  have supplied := agrees.supplied
  refine ⟨?_, ?_, ?_, ?_, ?_⟩
  · rintro front ⟨rest, rfl⟩
    have least := supplied.rise_le_need
    rwa [Int.natCast_zero, Int.zero_add] at least
  · obtain ⟨front, rest, rfl, greatest⟩ := supplied.exists_rise_eq_need
    rw [Int.natCast_zero, Int.zero_add] at greatest
    exact ⟨front, List.prefix_append front rest, greatest⟩
  · intro after overflowed
    exact (Machine.evaluate_height code).error overflowed rfl
  · intro beyond value after ended
    exact Nat.not_le_of_lt beyond ((Machine.evaluate_height code).ok ended)
  · intro front _ stack between executed
    exact ((Machine.executeAll_height front (Nat.zero_le _)).ok executed).2

/-- The text behind `title` finds no place: the expression needs two, and there is one. -/
theorem Block.overflow_by_need_title :
    let code : Postfix := [.load "title", .push (.text "b"), .operate .plus]
    let statement : Statement := ⟨1, .perform (.assign .nearest "hero" code)⟩
    let context : Context := { registry := Builtin.registry, config := { stackLimit := 1 } }
    let memory : Memory (Array Event) := ⟨.empty, none, #[], {}⟩
    let need := Postfix.need context.registry 0 code
    compile (some context.registry) "hero = title + \"b\"" = .ok [statement] ∧
      statement.command.code? = some code ∧
      Machine.evaluate context code memory = (.error (.fault .stackOverflow), memory) ∧
      context.config.stackLimit < need ∧
      ∃ front, front <+: code ∧ Postfix.rise context.registry front = need := by
  intro code statement context memory need
  have compiled : compile (some context.registry) "hero = title + \"b\"" = .ok [statement] :=
    eq_ok_of_toOption (by decide +kernel)
  have overflowed :
      Machine.evaluate context code memory = (.error (.fault .stackOverflow), memory) := by
    rfl
  obtain ⟨-, deepest, overflow, -, -⟩ :=
    Block.overflow_by_need compiled List.mem_cons_self rfl memory
  exact ⟨compiled, rfl, overflowed, overflow memory overflowed, deepest⟩

end EventScript
