import EventScript.Engine
import EventScript.Proofs.Computation

/-!
# Related runs

Two memories between which a script cannot tell, whatever it reads, calls or assigns. A run has the
same outcome on both, and it cannot tell between those that it leaves.
-/

namespace EventScript

variable {σ τ ε ε' α β : Type}

namespace Run

/-- Two computations with the same outcome on related memories, which they leave related. -/
def Related (related : Memory σ → Memory τ → Prop) (first : Run σ ε α) (second : Run τ ε α) : Prop :=
  ∀ memory other, related memory other →
    (first memory).1 = (second other).1 ∧ related (first memory).2 (second other).2

variable {related : Memory σ → Memory τ → Prop}

theorem related_pure (value : α) :
    Related related (pure value : Run σ ε α) (pure value) := fun _ _ holds => ⟨rfl, holds⟩

theorem related_throw (error : ε) :
    Related related (throw error : Run σ ε α) (throw error) := fun _ _ holds => ⟨rfl, holds⟩

theorem related_ofExcept (outcome : Except ε α) :
    Related related (MonadExcept.ofExcept outcome : Run σ ε α) (MonadExcept.ofExcept outcome) := by
  cases outcome with
  | ok value => exact related_pure value
  | error error => exact related_throw error

theorem Related.bind {first : Run σ ε α} {second : Run τ ε α} {next : α → Run σ ε β}
    {other : α → Run τ ε β} (runs : Related related first second)
    (continued : ∀ value, Related related (next value) (other value)) :
    Related related (first >>= next) (second >>= other) := by
  intro memory memory' holds
  obtain ⟨outcomes, left⟩ := runs memory memory' holds
  rw [bind_apply, bind_apply]
  rcases ended : first memory with ⟨outcome, after⟩
  rcases ended' : second memory' with ⟨outcome', after'⟩
  rw [ended, ended'] at outcomes left
  dsimp only at outcomes left
  subst outcomes
  cases outcome with
  | ok value => exact continued value after after' left
  | error error => exact ⟨rfl, left⟩

theorem Related.adapt {first : Run σ ε α} {second : Run τ ε α}
    (runs : Related related first second) (f : ε → ε') :
    Related related (ExceptT.adapt f first : Run σ ε' α) (ExceptT.adapt f second) := by
  intro memory other holds
  obtain ⟨outcomes, left⟩ := runs memory other holds
  rw [adapt_apply, adapt_apply, outcomes]
  exact ⟨rfl, left⟩

end Run

/-! ### What a script may do -/

def Postfix.Calls (registry : Registry) (permits : Procedure → Prop) (code : Postfix) : Prop :=
  ∀ call ∈ code.calls, ∀ function, registry.get? call.1 = some function →
    ∀ caller arguments, permits (function.handler caller arguments)

theorem Postfix.Calls.cons {registry : Registry} {permits : Procedure → Prop}
    {instruction : Instruction} {code : Postfix}
    (permitted : Postfix.Calls registry permits (instruction :: code)) :
    Postfix.Calls registry permits [instruction] ∧ code.Calls registry permits := by
  have calls : Postfix.calls (instruction :: code) = Postfix.calls [instruction] ++ code.calls :=
    List.filterMap_append (l := [instruction])
  constructor
  · intro call member
    exact permitted call (calls ▸ List.mem_append_left _ member)
  · intro call member
    exact permitted call (calls ▸ List.mem_append_right _ member)

structure Statement.Within (registry : Registry) (permits : Procedure → Prop)
    (scopes : Scope → Prop) (statement : Statement) : Prop where
  calls : ∀ code ∈ statement.command.code?, code.Calls registry permits
  assigns : ∀ scope target value, statement.command = .perform (.assign scope target value) →
    scopes scope

theorem Statement.within_all (registry : Registry) (statement : Statement) :
    statement.Within registry (fun _ => True) (fun _ => True) :=
  ⟨fun _ _ _ _ _ _ _ _ => trivial, fun _ _ _ _ => trivial⟩

variable [EventSink σ] [EventSink τ]

/-- Whether no script that keeps to such procedures and scopes can tell between related memories, or
between what it makes of them. -/
structure Memory.Indistinguishable (related : Memory σ → Memory τ → Prop)
    (permits : Procedure → Prop) (scopes : Scope → Prop) : Prop where
  lookup : ∀ {memory other}, related memory other → ∀ name, memory.lookup name = other.lookup name
  isConstant : ∀ {memory other}, related memory other →
    ∀ name, memory.isConstant name = other.isConstant name
  perform : ∀ {memory other}, related memory other → ∀ procedure, permits procedure →
    (procedure.perform memory).1 = (procedure.perform other).1 ∧
      related (procedure.perform memory).2 (procedure.perform other).2
  assign : ∀ {memory other}, related memory other → ∀ scope, scopes scope → ∀ target value,
    related (memory.assign scope target value) (other.assign scope target value)

/-! ### Runs -/

namespace Machine

omit [EventSink σ] in
theorem assign_apply (context : Context) (scope : Scope) (target : String) (value : Value)
    (memory : Memory σ) :
    assign context scope target value memory =
      if memory.isConstant target || context.constants.isConstant target then
        (.error (.fault (.constantTarget target)), memory)
      else (.ok (), memory.assign scope target value) := by
  unfold assign
  rw [Run.bind_apply]
  change (ite _ _ _ : Run σ Halt Unit) memory = _
  split
  · rfl
  · rfl

variable {related : Memory σ → Memory τ → Prop} {permits : Procedure → Prop}
  {scopes : Scope → Prop} (same : Memory.Indistinguishable related permits scopes)
  (context : Context)

include same

theorem call_related (name : String) (function : Function) (arguments : List Value)
    (permitted : permits (function.handler context.self arguments)) :
    Run.Related related (call context name function arguments : Run σ Halt (Option Value))
      (call context name function arguments) := by
  intro memory other holds
  obtain ⟨outcomes, left⟩ := same.perform holds _ permitted
  unfold call Function.call
  by_cases accepts : function.arity.accepts arguments.length = true
  · rw [if_pos accepts, if_pos accepts]
    dsimp only
    rw [outcomes]
    exact ⟨rfl, left⟩
  · rw [if_neg accepts, if_neg accepts]
    exact ⟨rfl, holds⟩

theorem execute_related (instruction : Instruction)
    (permitted : Postfix.Calls context.registry permits [instruction]) (stack : List Slot) :
    Run.Related related (execute context instruction stack : Run σ Halt (List Slot))
      (execute context instruction stack) := by
  cases instruction with
  | push value => exact Run.related_ofExcept _
  | load name =>
    -- What is read differs from memory to memory, so no rule for a bind applies here.
    intro memory other holds
    have resolved : context.resolve memory name = context.resolve other name := by
      unfold Context.resolve Context.lookup
      rw [same.lookup holds]
    have pushes : Run.Related related
        (MonadExcept.ofExcept (context.resolve memory name) >>= fun slot =>
          MonadExcept.ofExcept (context.push slot stack) : Run σ Halt (List Slot))
        (MonadExcept.ofExcept (context.resolve other name) >>= fun slot =>
          MonadExcept.ofExcept (context.push slot stack)) := by
      rw [resolved]
      exact (Run.related_ofExcept _).bind fun slot => Run.related_ofExcept _
    exact pushes memory other holds
  | operate op =>
    refine (Run.related_ofExcept _).bind fun (slots, rest) => ?_
    dsimp only
    split
    · exact Run.related_ofExcept _
    · exact Run.related_throw _
  | call name count =>
    unfold execute
    dsimp only
    cases found : context.registry.get? name with
    | none => exact Run.related_throw _
    | some function =>
      have handled := permitted (name, count) List.mem_cons_self function found context.self
      refine (Run.related_ofExcept _).bind fun (slots, rest) => ?_
      refine (call_related same context name function _ (handled _)).bind fun result => ?_
      split
      · exact Run.related_ofExcept _
      · exact Run.related_throw _
      · exact Run.related_pure _

theorem executeAll_related (code : Postfix) (permitted : code.Calls context.registry permits)
    (stack : List Slot) :
    Run.Related related (executeAll context code stack : Run σ Halt (List Slot))
      (executeAll context code stack) := by
  induction code generalizing stack with
  | nil => exact Run.related_pure _
  | cons instruction code ih =>
    obtain ⟨first, rest⟩ := permitted.cons
    exact (execute_related same context instruction first stack).bind fun stack => ih rest stack

theorem evaluate_related (code : Postfix) (permitted : code.Calls context.registry permits) :
    Run.Related related (evaluate context code : Run σ Halt (Option Value))
      (evaluate context code) :=
  (executeAll_related same context code permitted []).bind fun _ => Run.related_pure _

theorem assign_related (scope : Scope) (permitted : scopes scope) (target : String)
    (value : Value) :
    Run.Related related (assign context scope target value : Run σ Halt Unit)
      (assign context scope target value) := by
  intro memory other holds
  rw [assign_apply, assign_apply, same.isConstant holds]
  split
  · exact ⟨rfl, holds⟩
  · exact ⟨rfl, same.assign holds scope permitted target value⟩

theorem test_related (condition : Postfix)
    (permitted : condition.Calls context.registry permits) :
    Run.Related related (test context condition : Run σ Halt Bool) (test context condition) := by
  refine (evaluate_related same context condition permitted).bind fun value => ?_
  cases value with
  | none => exact Run.related_throw _
  | some value =>
    dsimp only
    split
    · exact Run.related_pure _
    · exact Run.related_throw _

theorem carryOut_related (execution : Execution) (index : Nat) (statement : Statement)
    (within : statement.Within context.registry permits scopes) :
    Run.Related related
      (carryOut context execution index statement : Run σ Failure (Execution × Nat))
      (carryOut context execution index statement) := by
  obtain ⟨line, command⟩ := statement
  obtain ⟨calls, assigns⟩ := within
  have evaluates {code : Postfix} (here : command.code? = some code) :=
    evaluate_related same context code (calls code here)
  cases command with
  | perform step =>
    have performs : Run.Related related
        (perform context step execution.lastValue : Run σ Halt (Option Value))
        (perform context step execution.lastValue) := by
      cases step with
      | evaluate code => exact evaluates rfl
      | assign scope target code =>
        refine (evaluates rfl).bind fun value => ?_
        cases value with
        | none => exact Run.related_throw _
        | some value =>
          have permitted := assigns scope target code rfl
          exact (assign_related same context scope permitted target value).bind fun _ =>
            Run.related_pure _
    exact (performs.adapt _).bind fun _ => Run.related_pure _
  | branch condition target =>
    have tests := test_related same context condition (calls condition rfl)
    exact (tests.adapt _).bind fun _ => Run.related_pure _
  | jump target => exact Run.related_pure _

theorem runFrom_related (execution : Execution) (index resume : Nat) (block : Block)
    (within : ∀ statement ∈ block, statement.Within context.registry permits scopes) :
    Run.Related related (runFrom context execution index resume block : Run σ Failure Execution)
      (runFrom context execution index resume block) := by
  induction block generalizing execution index resume with
  | nil => exact Run.related_pure _
  | cons statement block ih =>
    have rest := fun other member => within other (List.mem_cons_of_mem statement member)
    unfold runFrom
    split
    · exact ih _ _ _ rest
    · have first := carryOut_related same context execution index statement
        (within statement List.mem_cons_self)
      exact first.bind fun _ => ih _ _ _ rest

end Machine

/-- A block cannot tell between related memories. -/
theorem Block.run_related {related : Memory σ → Memory τ → Prop} {permits : Procedure → Prop}
    {scopes : Scope → Prop} (same : Memory.Indistinguishable related permits scopes)
    (block : Block) (context : Context)
    (within : ∀ statement ∈ block, statement.Within context.registry permits scopes)
    {memory : Memory σ} {other : Memory τ} (holds : related memory other) :
    (block.run context memory).1 = (block.run context other).1 ∧
      related (block.run context memory).2 (block.run context other).2 := by
  have runs := Machine.runFrom_related same context {} 0 0 block within memory other holds
  change (Machine.run context block memory).1 = (Machine.run context block other).1 ∧
    related (Machine.run context block memory).2 (Machine.run context block other).2 at runs
  unfold Block.run
  dsimp only [ExceptT.run]
  rcases ended : Machine.run context block memory with ⟨outcome, after⟩
  rcases ended' : Machine.run context block other with ⟨outcome', after'⟩
  rw [ended, ended'] at runs
  obtain ⟨outcomes, left⟩ := runs
  dsimp only at outcomes left ⊢
  subst outcomes
  cases outcome with
  | ok execution => exact ⟨rfl, left⟩
  | error failure => exact ⟨rfl, left⟩

/-! ### Invariants -/

section Invariants

variable {invariant : Memory σ → Prop} {permits : Procedure → Prop} {scopes : Scope → Prop}
  (performs : ∀ memory procedure, permits procedure → invariant memory →
    invariant (procedure.perform memory).2)
  (assigns : ∀ memory scope target value, scopes scope → invariant memory →
    invariant (memory.assign scope target value))

include performs assigns

/-- A memory with an invariant that every permitted step keeps, beside itself. -/
theorem Memory.invariant_indistinguishable :
    Memory.Indistinguishable (fun memory other => memory = other ∧ invariant memory) permits
      scopes where
  lookup := by
    rintro memory _ ⟨rfl, -⟩ name
    rfl
  isConstant := by
    rintro memory _ ⟨rfl, -⟩ name
    rfl
  perform := by
    rintro memory _ ⟨rfl, holds⟩ procedure permitted
    exact ⟨rfl, rfl, performs memory procedure permitted holds⟩
  assign := by
    rintro memory _ ⟨rfl, holds⟩ scope permitted target value
    exact ⟨rfl, assigns memory scope target value permitted holds⟩

theorem Machine.carryOut_keeps (context : Context) (execution : Execution) (index : Nat)
    {statement : Statement} (within : statement.Within context.registry permits scopes)
    {memory : Memory σ} (holds : invariant memory) :
    invariant (Machine.carryOut context execution index statement memory).2 := by
  have same := Memory.invariant_indistinguishable performs assigns
  have carried := Machine.carryOut_related same context execution index statement within
  exact (carried memory memory ⟨rfl, holds⟩).2.2

/-- A run keeps what its procedures and assignments keep, whether or not it fails. -/
theorem Machine.run_keeps (context : Context) (block : Block)
    (within : ∀ statement ∈ block, statement.Within context.registry permits scopes)
    {memory : Memory σ} (holds : invariant memory) :
    invariant (Machine.run context block memory).2 := by
  have same := Memory.invariant_indistinguishable performs assigns
  have runs := Machine.runFrom_related same context {} 0 0 block within memory memory ⟨rfl, holds⟩
  exact runs.2.2

end Invariants

/-- A block leaves the memory that its run leaves. -/
theorem Block.run_memory (block : Block) (context : Context) (memory : Memory σ) :
    (block.run context memory).2 = (Machine.run context block memory).2 := by
  unfold Block.run
  dsimp only [ExceptT.run]
  rcases Machine.run context block memory with ⟨_ | _, after⟩
  · rfl
  · rfl

end EventScript
