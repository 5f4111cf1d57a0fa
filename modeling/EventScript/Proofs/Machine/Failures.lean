import EventScript.Proofs.Machine.Ends
import EventScript.Proofs.Machine.Related
import EventScript.Proofs.Program.Joining

/-!
# Failures

A run that fails stops at one statement. What it leaves is what the statements before made of the
memory, and after them the functions that the failed statement had called by then.
-/

namespace EventScript

namespace Machine

variable {σ : Type} [EventSink σ]

/-- Which functions are called one after the other, with how many arguments, and what they make of
memory. The last of them may have failed with an error. -/
inductive Invokes (context : Context) :
    List (String × Nat) → Memory σ → Option HandlerError → Memory σ → Prop where
  | nothing (memory : Memory σ) : Invokes context [] memory none memory
  | returned {name : String} {function : Function} {arguments : List Value}
    {result : Option Value} {calls : List (String × Nat)} {refusal : Option HandlerError}
    {memory between after : Memory σ}
    (registered : context.registry.get? name = some function)
    (accepted : function.arity.accepts arguments.length = true)
    (ran : (function.handler context.self arguments).perform memory = (.ok result, between))
    (rest : Invokes context calls between refusal after) :
    Invokes context ((name, arguments.length) :: calls) memory refusal after
  | failed {name : String} {function : Function} {arguments : List Value} {error : HandlerError}
    {memory after : Memory σ}
    (registered : context.registry.get? name = some function)
    (accepted : function.arity.accepts arguments.length = true)
    (ran : (function.handler context.self arguments).perform memory = (.error error, after)) :
    Invokes context [(name, arguments.length)] memory (some error) after

variable {context : Context}

theorem Invokes.append {first second : List (String × Nat)} {refusal : Option HandlerError}
    {memory between after : Memory σ} (before : Invokes context first memory none between)
    (rest : Invokes context second between refusal after) :
    Invokes context (first ++ second) memory refusal after := by
  generalize returned : none = outcome at before
  induction before with
  | nothing => exact rest
  | returned registered accepted ran _ ih =>
    exact .returned registered accepted ran (ih rest returned)
  | failed => cases returned

theorem Invokes.unchanged {refusal : Option HandlerError} {memory after : Memory σ}
    (invokes : Invokes context [] memory refusal after) : after = memory := by
  cases invokes
  rfl

/-! ### Calls of a computation -/

/-- Whether the computation changes memory by these calls alone: by all of them if it succeeds, and
by the first of them if it halts. -/
def Calls {α : Type} (context : Context) (calls : List (String × Nat)) (action : Run σ Halt α) :
    Prop :=
  ∀ memory, match action memory with
    | (.ok _, after) => Invokes context calls memory none after
    | (.error halt, after) => ∃ made refusal, made <+: calls ∧
      Invokes context made memory refusal after ∧
        ∀ error, halt = .raised error → refusal = some (.script error)

variable {α β : Type}

theorem calls_pure (value : α) : Calls context [] (pure value : Run σ Halt α) :=
  fun memory => .nothing memory

theorem calls_throw (calls : List (String × Nat)) (cause : Fault) :
    Calls context calls (throw (.fault cause) : Run σ Halt α) :=
  fun memory => ⟨[], none, List.nil_prefix, .nothing memory, nofun⟩

theorem Calls.bind {action : Run σ Halt α} {next : α → Run σ Halt β}
    {first second : List (String × Nat)} (calls : Calls context first action)
    (continued : ∀ memory value after, action memory = (.ok value, after) →
      Calls context second (next value)) :
    Calls context (first ++ second) (action >>= next) := by
  intro memory
  have before := calls memory
  rw [Run.bind_apply]
  rcases ended : action memory with ⟨halt | value, between⟩
  · rw [ended] at before
    obtain ⟨made, refusal, early, invoked, raised⟩ := before
    exact ⟨made, refusal, early.trans (List.prefix_append _ _), invoked, raised⟩
  · rw [ended] at before
    have rest := continued memory value between ended between
    dsimp only at before ⊢
    rcases ended' : next value between with ⟨halt | result, after⟩
    · rw [ended'] at rest
      obtain ⟨made, refusal, early, invoked, raised⟩ := rest
      exact ⟨first ++ made, refusal, (List.prefix_append_right_inj first).mpr early,
        before.append invoked, raised⟩
    · rw [ended'] at rest
      exact before.append rest

theorem push_calls (slot : Slot) (stack : List Slot) :
    Calls context [] (MonadExcept.ofExcept (context.push slot stack) : Run σ Halt (List Slot)) := by
  unfold Context.push
  split
  · exact calls_pure _
  · exact calls_throw [] _

theorem pop_calls (count : Nat) (stack : List Slot) :
    Calls context []
      (MonadExcept.ofExcept (Slot.pop count stack) : Run σ Halt (List Slot × List Slot)) := by
  unfold Slot.pop
  split
  · exact calls_pure _
  · exact calls_throw [] _

theorem length_of_pop {count : Nat} {stack slots rest : List Slot}
    (popped : Slot.pop count stack = .ok (slots, rest)) : slots.length = count := by
  unfold Slot.pop at popped
  split at popped
  · next enough =>
    cases popped
    rw [List.length_reverse, List.length_take, Nat.min_eq_left enough]
  · cases popped

theorem resolve_calls (memory : Memory σ) (name : String) :
    Calls context [] (MonadExcept.ofExcept (context.resolve memory name) : Run σ Halt Slot) := by
  unfold Context.resolve
  split
  · exact calls_pure _
  · split
    · exact calls_throw [] _
    · exact calls_pure _

theorem call_calls {name : String} {function : Function} {arguments : List Value}
    (registered : context.registry.get? name = some function) :
    Calls context [(name, arguments.length)]
      (call context name function arguments : Run σ Halt (Option Value)) := by
  intro memory
  unfold call Function.call
  by_cases accepted : function.arity.accepts arguments.length = true
  · rw [if_pos accepted]
    rcases ran : (function.handler context.self arguments).perform memory with
      ⟨error | result, after⟩
    · refine ⟨_, some error, List.prefix_rfl, .failed registered accepted ran, ?_⟩
      intro raised same
      cases error with
      | script error =>
        cases same
        rfl
      | reported messages => cases same
    · exact .returned registered accepted ran (.nothing after)
  · rw [if_neg accepted]
    exact ⟨[], none, List.nil_prefix, .nothing memory, nofun⟩

theorem execute_calls (instruction : Instruction) (stack : List Slot) :
    Calls context (Postfix.calls [instruction])
      (execute context instruction stack : Run σ Halt (List Slot)) := by
  cases instruction with
  | push value => exact push_calls _ _
  | load name =>
    intro memory
    exact ((resolve_calls memory name).bind fun _ slot _ _ => push_calls slot stack) memory
  | operate op =>
    apply (pop_calls op.arity stack).bind
    rintro - ⟨slots, rest⟩ - -
    dsimp only
    split
    · exact push_calls _ _
    · exact calls_throw _ _
  | call name count =>
    unfold execute
    dsimp only
    cases found : context.registry.get? name with
    | none => exact calls_throw _ _
    | some function =>
      apply (pop_calls count stack).bind
      rintro memory ⟨slots, rest⟩ after popped
      have taken : (slots.map Slot.value).length = count := by
        rw [List.length_map]
        exact length_of_pop (Run.ofExcept_ok popped)
      have calls : Calls context [(name, (slots.map Slot.value).length)]
          (call context name function (slots.map Slot.value) : Run σ Halt (Option Value)) :=
        call_calls found
      rw [taken] at calls
      apply calls.bind
      rintro _ result _ _
      dsimp only
      split
      · exact push_calls _ _
      · exact calls_throw _ _
      · exact calls_pure _

theorem executeAll_calls (code : Postfix) (stack : List Slot) :
    Calls context code.calls (executeAll context code stack : Run σ Halt (List Slot)) := by
  induction code generalizing stack with
  | nil => exact calls_pure _
  | cons instruction code ih =>
    have calls : Postfix.calls (instruction :: code) =
        Postfix.calls [instruction] ++ Postfix.calls code :=
      List.filterMap_append (l := [instruction])
    rw [calls]
    exact (execute_calls instruction stack).bind fun _ after _ _ => ih after

theorem evaluate_calls (code : Postfix) :
    Calls context code.calls (evaluate context code : Run σ Halt (Option Value)) := by
  rw [← List.append_nil code.calls]
  exact (executeAll_calls code []).bind fun _ stack _ _ => calls_pure _

theorem test_calls (condition : Postfix) :
    Calls context condition.calls (test context condition : Run σ Halt Bool) := by
  rw [← List.append_nil condition.calls]
  apply (evaluate_calls condition).bind
  rintro - value - -
  cases value with
  | none => exact calls_throw _ _
  | some value =>
    dsimp only
    split
    · exact calls_pure _
    · exact calls_throw _ _

/-! ### Failed statements -/

/-- How the machine comes from one statement to another: it carries out the one, without a failure,
and whatever statement each one leads to. -/
inductive Reaches (context : Context) (block : Block) :
    Execution → Nat → Memory σ → Execution → Nat → Memory σ → Prop where
  | here (execution : Execution) (pc : Nat) (memory : Memory σ) :
    Reaches context block execution pc memory execution pc memory
  | turn {execution later final : Execution} {pc next last : Nat} {memory between after : Memory σ}
    (inside : pc < block.length)
    (carried : carryOut context execution pc block[pc] memory = (.ok (later, next), between))
    (rest : Reaches context block later next between final last after) :
    Reaches context block execution pc memory final last after

/-- A run that fails comes to a statement that fails. -/
theorem Ends.exists_reaches {block : Block} {execution : Execution} {pc : Nat}
    {memory after : Memory σ} {failure : Failure}
    (ends : Ends context block execution pc memory (.error failure, after)) :
    ∃ (index : Nat) (inside : index < block.length) (reached : Execution) (before : Memory σ),
      Reaches context block execution pc memory reached index before ∧
        carryOut context reached index block[index] before = (.error failure, after) := by
  generalize ended : (Except.error failure, after) = outcome at ends
  induction ends with
  | outside => cases ended
  | @failed execution pc memory _ _ inside failed =>
    cases ended
    exact ⟨pc, inside, execution, memory, .here _ _ _, failed⟩
  | turn inside carried _ ih =>
    obtain ⟨index, within, reached, before, reaches, failed⟩ := ih ended
    exact ⟨index, within, reached, before, .turn inside carried reaches, failed⟩

def Interrupts (context : Context) (code : Postfix) (memory : Memory σ) (halt : Halt)
    (after : Memory σ) : Prop :=
  ∃ made refusal, made <+: code.calls ∧ Invokes context made memory refusal after ∧
    ∀ error, halt = .raised error → refusal = some (.script error)

theorem Calls.interrupts {code : Postfix} {action : Run σ Halt α}
    (calls : Calls context code.calls action) {memory after : Memory σ} {halt : Halt}
    (halted : action memory = (.error halt, after)) :
    Interrupts context code memory halt after := by
  have outcome := calls memory
  rw [halted] at outcome
  exact outcome

/-- A fault after the code leaves what the code leaves. -/
theorem Calls.interrupts_behind {code : Postfix} {action : Run σ Halt α}
    (calls : Calls context code.calls action) {memory after : Memory σ} {value : α}
    (ended : action memory = (.ok value, after)) (cause : Fault) :
    Interrupts context code memory (.fault cause) after := by
  have outcome := calls memory
  rw [ended] at outcome
  exact ⟨code.calls, none, List.prefix_rfl, outcome, nofun⟩

theorem perform_interrupts {step : Step} {last : Option Value} {memory after : Memory σ}
    {halt : Halt} (halted : perform context step last memory = (.error halt, after)) :
    Interrupts context step.code memory halt after := by
  cases step with
  | evaluate code => exact (evaluate_calls code).interrupts halted
  | assign scope target code =>
    rcases Run.bind_error halted with stopped | ⟨value, between, ended, halted⟩
    · exact (evaluate_calls code).interrupts stopped
    · have behind := (evaluate_calls code).interrupts_behind ended
      cases value with
      | none =>
        cases halted
        exact behind _
      | some value =>
        rcases Run.bind_error halted with refused | ⟨_, _, _, finished⟩
        · -- A refused assignment changes nothing.
          rw [assign_apply] at refused
          split at refused
          · cases refused
            exact behind _
          · cases refused
        · cases finished

theorem carryOut_interrupts {execution : Execution} {index : Nat} {statement : Statement}
    {memory after : Memory σ} {failure : Failure}
    (failed : carryOut context execution index statement memory = (.error failure, after)) :
    failure.statement = index ∧ failure.line = statement.line ∧
      ∃ code, statement.command.code? = some code ∧
        Interrupts context code memory failure.halt after := by
  obtain ⟨line, command⟩ := statement
  cases command with
  | perform step =>
    rcases Run.bind_error failed with stopped | ⟨_, _, _, finished⟩
    · obtain ⟨halt, halted, rfl⟩ := Run.adapt_error stopped
      exact ⟨rfl, rfl, step.code, rfl, perform_interrupts halted⟩
    · cases finished
  | branch condition target =>
    rcases Run.bind_error failed with stopped | ⟨_, _, _, finished⟩
    · obtain ⟨halt, halted, rfl⟩ := Run.adapt_error stopped
      exact ⟨rfl, rfl, condition, rfl, (test_calls condition).interrupts halted⟩
    · cases finished
  | jump target => cases failed

end Machine

theorem Block.run_eq_error {σ : Type} [EventSink σ] {block : Block} {context : Context}
    {memory after : Memory σ} {error : ScriptError}
    (failed : block.run context memory = (.error error, after)) :
    ∃ failure, Machine.run context block memory = (.error failure, after) ∧
      failure.toError = error := by
  unfold Block.run at failed
  dsimp only [ExceptT.run] at failed
  rcases ended : Machine.run context block memory with ⟨failure | execution, left⟩
  · rw [ended] at failed
    cases failed
    exact ⟨failure, rfl, rfl⟩
  · rw [ended] at failed
    cases failed

/-- A compiled block that fails does so at one of its statements, which the run comes to. The error
is a fault of that statement and names its index and line, unless it is the error of a function that
the statement called. What is left is what the statements before have made of the memory, and then
the functions that the statement had called by then; nothing but that, and so nothing at all of a
statement that had called none. -/
theorem Block.failure_located {registry : Option Registry} {source : String} {block : Block}
    (compiled : compile registry source = .ok block) {σ : Type} [EventSink σ] {context : Context}
    {memory after : Memory σ} {error : ScriptError}
    (failed : block.run context memory = (.error error, after)) :
    ∃ (failure : Failure) (inside : failure.statement < block.length) (execution : Execution)
      (before : Memory σ),
      Machine.Reaches context block {} 0 memory execution failure.statement before ∧
      Machine.carryOut context execution failure.statement block[failure.statement] before =
        (.error failure, after) ∧
      ∃ code made refusal, block[failure.statement].command.code? = some code ∧
        made <+: code.calls ∧ Machine.Invokes context made before refusal after ∧
        (made = [] → after = before) ∧
        ((∃ cause, error = .fault failure.statement block[failure.statement].line cause) ∨
          refusal = some (.script error)) := by
  obtain ⟨failure, ran, rfl⟩ := Block.run_eq_error failed
  have forward := compile_forward compiled
  have ends := (Machine.ends_iff_run forward memory _).mpr ran.symm
  obtain ⟨index, inside, execution, before, reaches, stopped⟩ := ends.exists_reaches
  obtain ⟨rfl, line, code, evaluated, made, refusal, early, invoked, raised⟩ :=
    Machine.carryOut_interrupts stopped
  refine ⟨failure, inside, execution, before, reaches, stopped, code, made, refusal, evaluated,
    early, invoked, ?_, ?_⟩
  · rintro rfl
    exact invoked.unchanged
  · cases halted : failure.halt with
    | fault cause =>
      refine .inl ⟨cause, ?_⟩
      rw [Failure.toError, halted, line]
    | raised error =>
      refine .inr ?_
      rw [Failure.toError, halted]
      exact raised error halted

def chime : Function where
  arity := .exactly 0
  handler _ _ := .trigger (.named "chimed") fun _ => .done (some (.text "n"))

/-- The call returns, and the subtraction behind it fails: the event stays, `tone` and `done` remain
unknown. -/
theorem Block.failure_located_chime :
    let source := "ready = true\nif ready { tone = chime() - ready }\ndone = true"
    let block : Block :=
      [⟨1, .perform (.assign .nearest "ready" [.push (.boolean true)])⟩,
        ⟨2, .branch [.load "ready"] 3⟩,
        ⟨2, .perform (.assign .nearest "tone" [.call "chime" 0, .load "ready", .operate .minus])⟩,
        ⟨3, .perform (.assign .nearest "done" [.push (.boolean true)])⟩]
    let context : Context := { registry := .ofList [("chime", chime)] }
    let memory : Memory (Array Event) := ⟨.empty, none, #[], {}⟩
    let after : Memory (Array Event) :=
      ⟨.ofBindings ((∅ : Names Value).insert "ready" (.boolean true)), none, #[.named "chimed"], {}⟩
    let error : ScriptError :=
      .fault 2 2 (.operator (.unsupported .minus [.text "n", .boolean true]))
    compile none source = .ok block ∧ block.run context memory = (.error error, after) ∧
      ∃ (failure : Failure) (inside : failure.statement < block.length) (execution : Execution)
        (before : Memory (Array Event)),
        Machine.Reaches context block {} 0 memory execution failure.statement before ∧
        Machine.carryOut context execution failure.statement block[failure.statement] before =
          (.error failure, after) ∧
        ∃ code made refusal, block[failure.statement].command.code? = some code ∧
          made <+: code.calls ∧ Machine.Invokes context made before refusal after ∧
          (made = [] → after = before) ∧
          ((∃ cause, error = .fault failure.statement block[failure.statement].line cause) ∨
            refusal = some (.script error)) := by
  intro source block context memory after error
  have compiled : compile none source = .ok block := eq_ok_of_toOption (by decide +kernel)
  have failed : block.run context memory = (.error error, after) := by rfl
  exact ⟨compiled, failed, Block.failure_located compiled failed⟩

end EventScript
