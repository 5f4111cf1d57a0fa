import EventScript.Postfix.Checked
import EventScript.Proofs.Computation
import EventScript.Proofs.Machine.Depth

/-!
# Safety of checked code

Code whose calls agree with the registry never takes more from the stack than there is, calls
functions with as many arguments as they take, and leaves a value wherever one is used.
-/

namespace EventScript

/-- Whether the halt is a fault that the checks of compiled code rule out. -/
def Halt.IsMisuse : Halt → Prop
  | .fault .stackUnderflow | .fault (.nothingToAssign _) | .fault .noCondition
  | .fault (.wrongArgumentCount ..) => True
  | _ => False

/-- Whether the code leaves a value, or may leave none if it is bare, and its calls agree with the
registry. -/
def Postfix.Agrees (registry : Registry) (bare : Bool) (code : Postfix) : Prop :=
  code.stackEffect = .ok 1 ∧ code.misuse? registry bare = none

def Command.Agrees (registry : Registry) : Command → Prop
  | .perform (.evaluate code) => code.Agrees registry true
  | .perform (.assign _ _ code) | .branch code _ => code.Agrees registry false
  | .jump _ => True

namespace Machine

variable {σ : Type} {context : Context}

def Sound (halt : Halt) : Prop := ¬ halt.IsMisuse

/-! ### Instructions -/

def Accepts (registry : Registry) : Instruction → Prop
  | .call name count => ∀ function ∈ registry.get? name, function.arity.accepts count = true
  | _ => True

def depthAfter (context : Context) (instruction : Instruction) (stack : List Slot) : Nat :=
  stack.length - instruction.pops + instruction.pushes context.registry

/-- The stacks that the instruction may leave: as deep as its effect says, and within the limit if
the stack was within it before. -/
def MayLeave (context : Context) (instruction : Instruction) (stack after : List Slot) : Prop :=
  after.length = depthAfter context instruction stack ∧
    (stack.length ≤ context.config.stackLimit → after.length ≤ context.config.stackLimit)

/-- The halts that the instruction may come to: faults of the stack and of a call only where their
causes are. -/
def MayHalt (context : Context) (instruction : Instruction) (stack : List Slot) : Halt → Prop
  | .fault .stackOverflow => context.config.stackLimit < depthAfter context instruction stack
  | .fault .stackUnderflow => stack.length < instruction.pops
  | .fault (.wrongArgumentCount ..) => ¬ Accepts context.registry instruction
  | .fault (.nothingToAssign _) | .fault .noCondition => False
  | _ => True

theorem MayHalt.sound {instruction : Instruction} {stack : List Slot} {halt : Halt}
    (may : MayHalt context instruction stack halt) (enough : instruction.pops ≤ stack.length)
    (accepts : Accepts context.registry instruction) : Sound halt := by
  intro misuse
  cases halt with
  | raised error => exact misuse
  | fault cause =>
    cases cause with
    | stackUnderflow => exact Nat.not_lt.mpr enough may
    | wrongArgumentCount name arity count => exact may accepts
    | nothingToAssign target => exact may
    | noCondition => exact may
    | _ => exact misuse

theorem push_yields {instruction : Instruction} {stack rest : List Slot} {depth : Nat} (slot : Slot)
    (length : rest.length = depth) (leaves : depthAfter context instruction stack = depth + 1) :
    Run.Yields (MonadExcept.ofExcept (context.push slot rest) : Run σ Halt (List Slot))
      (MayLeave context instruction stack) (MayHalt context instruction stack) := by
  subst length
  unfold Context.push
  split
  · next room => exact Run.yields_pure ⟨leaves.symm, fun _ => room⟩
  · next full =>
    have beyond : context.config.stackLimit < depthAfter context instruction stack := by omega
    exact Run.yields_throw beyond

theorem resolve_yields (stack : List Slot) (memory : Memory σ) (name : String) :
    Run.Yields (MonadExcept.ofExcept (context.resolve memory name) : Run σ Halt Slot)
      (fun _ => True) (MayHalt context (.load name) stack) := by
  unfold Context.resolve
  split
  · exact Run.yields_pure trivial
  · split
    · exact Run.yields_throw trivial
    · exact Run.yields_pure trivial

theorem pop_yields (instruction : Instruction) (stack : List Slot) :
    Run.Yields
      (MonadExcept.ofExcept (Slot.pop instruction.pops stack) : Run σ Halt (List Slot × List Slot))
      (fun (slots, rest) =>
        slots.length = instruction.pops ∧ rest.length = stack.length - instruction.pops)
      (MayHalt context instruction stack) := by
  unfold Slot.pop
  split
  · next enough => exact Run.yields_pure ⟨by simp [enough], by simp⟩
  · next short => exact Run.yields_throw (Nat.not_le.mp short)

variable [EventSink σ]

theorem call_yields {name : String} {function : Function} {arguments : List Value} {count : Nat}
    (found : context.registry.get? name = some function) (length : arguments.length = count)
    (stack : List Slot) :
    Run.Yields (call context name function arguments : Run σ Halt (Option Value))
      (fun _ => True) (MayHalt context (.call name count) stack) := by
  subst length
  intro memory
  unfold call Function.call
  cases accepted : function.arity.accepts arguments.length with
  | false =>
    intro accepts
    rw [accepts function found] at accepted
    cases accepted
  | true =>
    rcases (function.handler context.self arguments).perform memory with ⟨error | value, after⟩
    · cases error <;> trivial
    · trivial

theorem execute_yields (instruction : Instruction) (stack : List Slot) :
    Run.Yields (execute context instruction stack : Run σ Halt (List Slot))
      (MayLeave context instruction stack) (MayHalt context instruction stack) := by
  cases instruction with
  | push value => exact push_yields _ rfl rfl
  | load name =>
    intro memory
    exact ((resolve_yields stack memory name).bind fun slot _ => push_yields slot rfl rfl) memory
  | operate op =>
    refine (pop_yields (.operate op) stack).bind fun (slots, rest) ⟨_, left⟩ => ?_
    dsimp only
    split
    · exact push_yields _ left rfl
    · exact Run.yields_throw trivial
  | call name count =>
    unfold execute
    dsimp only
    cases found : context.registry.get? name with
    | none => exact Run.yields_throw trivial
    | some function =>
      refine (pop_yields (.call name count) stack).bind fun (slots, rest) ⟨taken, left⟩ => ?_
      have counted : (slots.map Slot.value).length = count := (List.length_map _).trans taken
      refine (call_yields found counted stack).bind fun result _ => ?_
      have void := Registry.isVoid_some found
      cases gives : function.returnsValue with
      | false =>
        rw [gives] at void
        have leaves : depthAfter context (.call name count) stack = rest.length := by
          rw [depthAfter, Instruction.pushes_void void, left, Nat.add_zero]
        have lower : rest.length ≤ stack.length := left ▸ Nat.sub_le _ _
        cases result <;>
          exact Run.yields_pure ⟨leaves.symm, fun within => Nat.le_trans lower within⟩
      | true =>
        rw [gives] at void
        have leaves : depthAfter context (.call name count) stack = stack.length - count + 1 := by
          rw [depthAfter, Instruction.pushes_call void, Instruction.pops]
        cases result with
        | none => exact Run.yields_throw trivial
        | some value => exact push_yields _ left leaves

/-! ### Code -/

/-- In code without a misuse only the last call can be of a function without a value, and only in a
bare expression. -/
theorem misuse?_cons {registry : Registry} {bare : Bool} {instruction : Instruction}
    {code : Postfix} (agrees : Postfix.misuse? registry bare (instruction :: code) = none) :
    Accepts registry instruction ∧ Postfix.misuse? registry bare code = none ∧
      (instruction.pushes registry = 1 ∨
        instruction.pushes registry = 0 ∧ bare = true ∧ code = []) := by
  cases instruction with
  | push | load | operate => exact ⟨trivial, agrees, .inl rfl⟩
  | call name count =>
    rw [Postfix.misuse?] at agrees
    cases found : registry.get? name with
    | none =>
      rw [found] at agrees
      refine ⟨fun function member => ?_, agrees, .inl ?_⟩
      · rw [found] at member
        cases member
      · exact Instruction.pushes_call (Registry.isVoid_none found)
    | some function =>
      rw [found] at agrees
      dsimp only at agrees
      split at agrees
      · cases agrees
      · next accepted =>
        split at agrees
        · cases agrees
        · next used =>
          refine ⟨fun other member => ?_, agrees, ?_⟩
          · rw [found] at member
            cases member
            simpa using accepted
          · have void := Registry.isVoid_some found
            cases gives : function.returnsValue with
            | true =>
              rw [gives] at void
              exact .inl (Instruction.pushes_call void)
            | false =>
              rw [gives] at void
              refine .inr ⟨Instruction.pushes_void void, ?_⟩
              simpa [gives] using used

/-- The stack is as deep after the code as its effect says, unless the code is bare and ends in a
call of a function without a value. -/
theorem executeAll_yields {code : Postfix} {bare : Bool} {index depth final : Nat}
    {stack : List Slot} (effect : Postfix.depthFrom index depth code = .ok final)
    (agrees : Postfix.misuse? context.registry bare code = none) (length : stack.length = depth) :
    Run.Yields (executeAll context code stack : Run σ Halt (List Slot))
      (fun after => after.length = final ∨ bare = true ∧ after.length + 1 = final) Sound := by
  induction code generalizing index depth stack with
  | nil =>
    cases effect
    exact Run.yields_pure (.inl length)
  | cons instruction code ih =>
    obtain ⟨accepts, agrees, pushes⟩ := misuse?_cons agrees
    rw [Postfix.depthFrom] at effect
    split at effect
    · next enough =>
      subst length
      have executes : Run.Yields (execute context instruction stack : Run σ Halt (List Slot))
          (fun after => after.length = depthAfter context instruction stack) Sound :=
        (execute_yields instruction stack).imp (fun _ => And.left) fun _ may =>
          may.sound enough accepts
      refine executes.bind fun after length => ?_
      rw [depthAfter] at length
      rcases pushes with one | ⟨none, isBare, rfl⟩
      · rw [one] at length
        exact ih effect agrees length
      · cases effect
        rw [none] at length
        exact Run.yields_pure (.inr ⟨isBare, by rw [length]⟩)
    · cases effect

theorem evaluate_yields {code : Postfix} {bare : Bool}
    (agrees : code.Agrees context.registry bare) :
    Run.Yields (evaluate context code : Run σ Halt (Option Value))
      (fun value => bare = false → value.isSome) Sound := by
  refine (executeAll_yields agrees.1 agrees.2 rfl).bind fun stack length => Run.yields_pure ?_
  intro used
  rcases length with one | ⟨isBare, -⟩
  · cases stack with
    | nil => cases one
    | cons slot stack => rfl
  · rw [used] at isBare
    cases isBare

omit [EventSink σ] in
theorem assign_yields (scope : Scope) (target : String) (value : Value) :
    Run.Yields (assign context scope target value : Run σ Halt Unit) (fun _ => True) Sound := by
  unfold assign
  refine Run.yields_get.bind fun memory _ => ?_
  split
  · exact fun _ => id
  · exact Run.yields_set _

theorem perform_yields {step : Step} (agrees : Command.Agrees context.registry (.perform step))
    (last : Option Value) :
    Run.Yields (perform context step last : Run σ Halt (Option Value)) (fun _ => True) Sound := by
  cases step with
  | evaluate code => exact (evaluate_yields agrees).weaken fun _ _ => trivial
  | assign scope target code =>
    refine (evaluate_yields agrees).bind fun value found => ?_
    cases value with
    | none => cases found rfl
    | some value =>
      exact (assign_yields scope target value).bind fun _ _ => Run.yields_pure trivial

theorem test_yields {condition : Postfix} (agrees : condition.Agrees context.registry false) :
    Run.Yields (test context condition : Run σ Halt Bool) (fun _ => True) Sound := by
  refine (evaluate_yields agrees).bind fun value found => ?_
  cases value with
  | none => cases found rfl
  | some value =>
    dsimp only
    split
    · exact Run.yields_pure trivial
    · exact Run.yields_throw id

omit [EventSink σ] in
theorem located_yields {α : Type} {action : Run σ Halt α} {result : α → Prop} (index line : Nat)
    (yields : action.Yields result Sound) :
    (located index line action).Yields result fun failure => Sound failure.halt :=
  Run.Yields.adapt yields

theorem carryOut_yields {statement : Statement}
    (agrees : statement.command.Agrees context.registry) (execution : Execution) (index : Nat) :
    Run.Yields (carryOut context execution index statement : Run σ Failure (Execution × Nat))
      (fun _ => True) (fun failure => Sound failure.halt) := by
  obtain ⟨line, command⟩ := statement
  cases command with
  | perform step =>
    exact (located_yields _ _ (perform_yields agrees _)).bind fun _ _ => Run.yields_pure trivial
  | branch condition target =>
    exact (located_yields _ _ (test_yields agrees)).bind fun _ _ => Run.yields_pure trivial
  | jump target => exact Run.yields_pure trivial

theorem runFrom_yields {block : Block}
    (agree : ∀ statement ∈ block, statement.command.Agrees context.registry)
    (execution : Execution) (index resume : Nat) :
    Run.Yields (runFrom context execution index resume block : Run σ Failure Execution)
      (fun _ => True) (fun failure => Sound failure.halt) := by
  induction block generalizing execution index resume with
  | nil => exact Run.yields_pure trivial
  | cons statement block ih =>
    have rest := ih fun other member => agree other (List.mem_cons_of_mem _ member)
    unfold runFrom
    split
    · exact rest _ _ _
    · exact (carryOut_yields (agree statement List.mem_cons_self) _ _).bind fun _ _ => rest _ _ _

end Machine

end EventScript
