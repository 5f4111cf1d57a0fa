import EventScript.Function.Builtin
import EventScript.Proofs.Machine.Ends
import EventScript.Proofs.Program.Joining

/-!
# What the configuration restricts

A run under a tighter configuration does as one under a looser one, up to where it is refused what
the looser one allows: a place on the stack, or an unknown name.
-/

namespace EventScript

variable {σ ε ε' α β : Type}

namespace Run

/-- The first computation does as the second on every memory, unless it fails with such an error. -/
def Restricts (refusal : ε → Prop) (first second : Run σ ε α) : Prop :=
  ∀ memory, first memory = second memory ∨
    ∃ error after, first memory = (.error error, after) ∧ refusal error

variable {refusal : ε → Prop}

theorem Restricts.refl (action : Run σ ε α) : Restricts refusal action action := fun _ => .inl rfl

theorem restricts_ofExcept {first second : Except ε α}
    (restricts : first = second ∨ ∃ error, first = .error error ∧ refusal error) :
    Restricts refusal (MonadExcept.ofExcept first : Run σ ε α) (MonadExcept.ofExcept second) := by
  rcases restricts with rfl | ⟨error, rfl, refused⟩
  · exact .refl _
  · exact fun memory => .inr ⟨error, memory, rfl, refused⟩

theorem Restricts.bind {first second : Run σ ε α} {next other : α → Run σ ε β}
    (restricts : Restricts refusal first second)
    (continued : ∀ value, Restricts refusal (next value) (other value)) :
    Restricts refusal (first >>= next) (second >>= other) := by
  intro memory
  rw [bind_apply, bind_apply]
  rcases restricts memory with same | ⟨error, after, failed, refused⟩
  · rw [same]
    rcases second memory with ⟨error | value, between⟩
    · exact .inl rfl
    · exact continued value between
  · rw [failed]
    exact .inr ⟨error, after, rfl, refused⟩

theorem Restricts.adapt {f : ε → ε'} {refused : ε' → Prop} {first second : Run σ ε α}
    (restricts : Restricts (fun error => refused (f error)) first second) :
    Restricts refused (ExceptT.adapt f first : Run σ ε' α) (ExceptT.adapt f second) := by
  intro memory
  rw [adapt_apply, adapt_apply]
  rcases restricts memory with same | ⟨error, after, failed, refused⟩
  · rw [same]
    exact .inl rfl
  · rw [failed]
    exact .inr ⟨f error, after, rfl, refused⟩

end Run

/-- Whether the context reads names and puts values on the stack as it would under the other
configuration, unless it refuses to for such a reason. -/
structure Context.Tightens (σ : Type) (refusal : Halt → Prop) (context : Context)
    (config : Config) : Prop where
  resolve : ∀ (memory : Memory σ) (name : String),
    context.resolve memory name = { context with config }.resolve memory name ∨
      ∃ halt, context.resolve memory name = .error halt ∧ refusal halt
  push : ∀ (slot : Slot) (stack : List Slot),
    context.push slot stack = { context with config }.push slot stack ∨
      ∃ halt, context.push slot stack = .error halt ∧ refusal halt

/-- A lower limit refuses no more than the places on the stack above it. -/
theorem Context.tightens_stackLimit (context : Context) {limit : Nat}
    (lower : context.config.stackLimit ≤ limit) :
    context.Tightens σ (· = .fault .stackOverflow)
      { context.config with stackLimit := limit } where
  resolve _ _ := .inl rfl
  push slot stack := by
    unfold Context.push
    by_cases room : stack.length < context.config.stackLimit
    · rw [if_pos room, if_pos (Nat.lt_of_lt_of_le room lower)]
      exact .inl rfl
    · rw [if_neg room]
      exact .inr ⟨_, rfl, rfl⟩

/-- Strict symbols refuse no more than unknown names. -/
theorem Context.tightens_strictSymbols (context : Context)
    (strict : context.config.strictSymbols = true) :
    context.Tightens σ (fun halt => ∃ name, halt = .fault (.unknownIdentifier name))
      { context.config with strictSymbols := false } where
  resolve memory name := by
    cases read : context.lookup memory name with
    | some value =>
      have loose : { context with config.strictSymbols := false }.lookup memory name = some value :=
        read
      rw [Context.resolve, Context.resolve, read, loose]
      exact .inl rfl
    | none =>
      refine .inr ⟨_, ?_, name, rfl⟩
      rw [Context.resolve, read]
      exact if_pos strict
  push _ _ := .inl rfl

variable [EventSink σ]

namespace Machine

variable {refusal : Halt → Prop} {context : Context} {config : Config}
  (tightens : context.Tightens σ refusal config)

include tightens

theorem execute_restricts (instruction : Instruction) (stack : List Slot) :
    Run.Restricts refusal (execute context instruction stack : Run σ Halt (List Slot))
      (execute { context with config } instruction stack) := by
  have pushes (slot : Slot) (stack : List Slot) :
      Run.Restricts refusal
        (MonadExcept.ofExcept (context.push slot stack) : Run σ Halt (List Slot))
        (MonadExcept.ofExcept ({ context with config }.push slot stack)) :=
    Run.restricts_ofExcept (tightens.push slot stack)
  cases instruction with
  | push value => exact pushes _ stack
  | load name =>
    -- What is read depends on the memory, so no rule for a bind applies to reading it.
    intro memory
    have resolves := Run.restricts_ofExcept (σ := σ) (tightens.resolve memory name)
    exact (resolves.bind fun slot => pushes slot stack) memory
  | operate op =>
    refine (Run.Restricts.refl _).bind fun (slots, rest) => ?_
    dsimp only
    split
    · exact pushes _ rest
    · exact .refl _
  | call name count =>
    unfold execute
    dsimp only
    cases context.registry.get? name with
    | none => exact .refl _
    | some function =>
      refine (Run.Restricts.refl _).bind fun (slots, rest) => ?_
      refine (Run.Restricts.refl _).bind fun result => ?_
      split
      · exact pushes _ rest
      · exact .refl _
      · exact .refl _

theorem executeAll_restricts (code : Postfix) (stack : List Slot) :
    Run.Restricts refusal (executeAll context code stack : Run σ Halt (List Slot))
      (executeAll { context with config } code stack) := by
  induction code generalizing stack with
  | nil => exact .refl _
  | cons instruction code ih => exact (execute_restricts tightens instruction stack).bind ih

theorem evaluate_restricts (code : Postfix) :
    Run.Restricts refusal (evaluate context code : Run σ Halt (Option Value))
      (evaluate { context with config } code) :=
  (executeAll_restricts tightens code []).bind fun _ => .refl _

theorem test_restricts (condition : Postfix) :
    Run.Restricts refusal (test context condition : Run σ Halt Bool)
      (test { context with config } condition) :=
  (evaluate_restricts tightens condition).bind fun _ => .refl _

theorem perform_restricts (step : Step) (last : Option Value) :
    Run.Restricts refusal (perform context step last : Run σ Halt (Option Value))
      (perform { context with config } step last) := by
  cases step with
  | evaluate code => exact evaluate_restricts tightens code
  | assign scope target code => exact (evaluate_restricts tightens code).bind fun _ => .refl _

omit [EventSink σ] tightens in
theorem located_restricts {first second : Run σ Halt α} (index line : Nat)
    (restricts : Run.Restricts refusal first second) :
    Run.Restricts (fun failure => refusal failure.halt) (located index line first)
      (located index line second) :=
  Run.Restricts.adapt restricts

theorem carryOut_restricts (execution : Execution) (index : Nat) (statement : Statement) :
    Run.Restricts (fun failure => refusal failure.halt)
      (carryOut context execution index statement : Run σ Failure (Execution × Nat))
      (carryOut { context with config } execution index statement) := by
  obtain ⟨line, command⟩ := statement
  cases command with
  | perform step =>
    exact (located_restricts _ _ (perform_restricts tightens step _)).bind fun _ => .refl _
  | branch condition target =>
    exact (located_restricts _ _ (test_restricts tightens condition)).bind fun _ => .refl _
  | jump target => exact .refl _

variable {block : Block} {execution : Execution} {pc : Nat} {memory : Memory σ}

theorem Ends.loosened {outcome : Except Failure Execution × Memory σ}
    (ends : Ends context block execution pc memory outcome) :
    Ends { context with config } block execution pc memory outcome ∨
      ∃ failure after, outcome = (.error failure, after) ∧ refusal failure.halt := by
  induction ends with
  | outside outside => exact .inl (.outside outside)
  | @failed execution pc memory after failure inside failed =>
    rcases carryOut_restricts tightens execution pc block[pc] memory with
      same | ⟨refused, left, stopped, reason⟩
    · exact .inl (.failed inside (same.symm.trans failed))
    · cases failed.symm.trans stopped
      exact .inr ⟨failure, after, rfl, reason⟩
  | @turn execution _ pc _ memory _ _ inside carried _ ih =>
    rcases carryOut_restricts tightens execution pc block[pc] memory with
      same | ⟨refused, left, stopped, -⟩
    · exact ih.imp_left (.turn inside (same.symm.trans carried))
    · cases carried.symm.trans stopped

theorem Ends.tightened {outcome : Except Failure Execution × Memory σ}
    (ends : Ends { context with config } block execution pc memory outcome) :
    Ends context block execution pc memory outcome ∨
      ∃ failure after, Ends context block execution pc memory (.error failure, after) ∧
        refusal failure.halt := by
  induction ends with
  | outside outside => exact .inl (.outside outside)
  | @failed execution pc memory after failure inside failed =>
    rcases carryOut_restricts tightens execution pc block[pc] memory with
      same | ⟨refused, left, stopped, reason⟩
    · exact .inl (.failed inside (same.trans failed))
    · exact .inr ⟨refused, left, .failed inside stopped, reason⟩
  | @turn execution _ pc _ memory _ _ inside carried _ ih =>
    -- Wherever the tighter run is refused something, it ends there, however the looser one goes on.
    rcases carryOut_restricts tightens execution pc block[pc] memory with
      same | ⟨refused, left, stopped, reason⟩
    · rcases ih with ends | ⟨refused, left, ends, reason⟩
      · exact .inl (.turn inside (same.trans carried) ends)
      · exact .inr ⟨refused, left, .turn inside (same.trans carried) ends, reason⟩
    · exact .inr ⟨refused, left, .failed inside stopped, reason⟩

/-- Where no such refusal ends it, the machine ends with what it ends with under the looser
configuration, if it ends at all. -/
theorem ends_iff_loosened
    (allowed : ∀ failure after,
      Ends context block execution pc memory (.error failure, after) → ¬ refusal failure.halt)
    (outcome : Except Failure Execution × Memory σ) :
    Ends { context with config } block execution pc memory outcome ↔
      Ends context block execution pc memory outcome := by
  constructor
  · intro ends
    rcases ends.tightened tightens with ends | ⟨failure, after, ends, refused⟩
    · exact ends
    · exact absurd refused (allowed failure after ends)
  · intro ends
    rcases ends.loosened tightens with loosened | ⟨failure, after, rfl, refused⟩
    · exact loosened
    · exact absurd refused (allowed failure after ends)

end Machine

/-- A run that does not fail for want of a place on the stack is the same, with all that it leaves,
under every higher limit, and so is one that does not fail at an unknown name where symbols are
strict, where they are not. -/
theorem Block.config_restricts (context : Context) (block : Block) (memory : Memory σ) :
    (∀ limit, context.config.stackLimit ≤ limit →
      (∀ failure after, Machine.Ends context block {} 0 memory (.error failure, after) →
        failure.halt ≠ .fault .stackOverflow) →
      ∀ outcome,
        Machine.Ends { context with config.stackLimit := limit } block {} 0 memory outcome ↔
          Machine.Ends context block {} 0 memory outcome) ∧
    (context.config.strictSymbols = true →
      (∀ failure after, Machine.Ends context block {} 0 memory (.error failure, after) →
        ∀ name, failure.halt ≠ .fault (.unknownIdentifier name)) →
      ∀ outcome,
        Machine.Ends { context with config.strictSymbols := false } block {} 0 memory outcome ↔
          Machine.Ends context block {} 0 memory outcome) := by
  constructor
  · intro limit lower room
    exact Machine.ends_iff_loosened (context.tightens_stackLimit lower) room
  · intro strict known
    refine Machine.ends_iff_loosened (context.tightens_strictSymbols strict) ?_
    rintro failure after ends ⟨name, refused⟩
    exact known failure after ends name refused

/-- The last statement takes two places on the stack and reads known names only, but fails. -/
theorem Block.config_restricts_hero :
    let source := "hero = title + \"b\"\nlevel = hero - title"
    let block : Block :=
      [⟨1, .perform (.assign .nearest "hero" [.load "title", .push (.text "b"), .operate .plus])⟩,
        ⟨2, .perform (.assign .nearest "level" [.load "hero", .load "title", .operate .minus])⟩]
    let context : Context :=
      { registry := Builtin.registry, config := { stackLimit := 2, strictSymbols := true } }
    let memory : Memory (Array Event) :=
      ⟨.empty, some (.ofBindings ((∅ : Names Value).insert "title" (.text "a"))), #[], {}⟩
    let after := memory.assign .nearest "hero" (.text "ab")
    let outcome : Except Failure Execution :=
      .error ⟨1, 2, .fault (.operator (.unsupported .minus [.text "ab", .text "a"]))⟩
    compile (some context.registry) source = .ok block ∧
      Machine.Ends context block {} 0 memory (outcome, after) ∧
      Machine.Ends { context with config.stackLimit := 2048 } block {} 0 memory (outcome, after) ∧
      Machine.Ends { context with config.strictSymbols := false } block {} 0 memory
        (outcome, after) := by
  intro source block context memory after outcome
  have compiled : compile (some context.registry) source = .ok block :=
    eq_ok_of_toOption (by decide +kernel)
  have first : Machine.carryOut context {} 0 block[0] memory = (.ok (⟨1, none⟩, 1), after) := by
    rfl
  have second : Machine.carryOut context ⟨1, none⟩ 1 block[1] after =
      (.error ⟨1, 2, .fault (.operator (.unsupported .minus [.text "ab", .text "a"]))⟩, after) := by
    rfl
  have ends : Machine.Ends context block {} 0 memory (outcome, after) :=
    .turn (by decide) first (.failed (by decide) second)
  have halted {failure : Failure} {left : Memory (Array Event)}
      (failed : Machine.Ends context block {} 0 memory (.error failure, left)) :
      failure.halt = .fault (.operator (.unsupported .minus [.text "ab", .text "a"])) := by
    have forward := compile_forward compiled
    have same := ((Machine.ends_iff_run forward memory _).mp failed).trans
      ((Machine.ends_iff_run forward memory _).mp ends).symm
    exact congrArg Failure.halt (Except.error.inj (congrArg Prod.fst same))
  obtain ⟨higher, loose⟩ := Block.config_restricts context block memory
  refine ⟨compiled, ends, (higher 2048 (by decide) ?_ _).mpr ends, (loose rfl ?_ _).mpr ends⟩
  · intro failure left failed overflow
    cases (halted failed).symm.trans overflow
  · intro failure left failed name unknown
    cases (halted failed).symm.trans unknown

end EventScript
