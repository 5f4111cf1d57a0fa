import EventScript.Proofs.Machine.Failures
import EventScript.Proofs.Machine.Purity
import EventScript.Proofs.Memory.Assigned

/-!
# Assignments of a run

Where no function changes symbols, a run changes them by its assignments alone, one for each
assignment statement that it carries out.
-/

namespace EventScript

variable {σ : Type}

/-! ### The same symbols -/

structure Memory.SameSymbols (memory other : Memory σ) : Prop where
  locals : other.locals = memory.locals
  globals : other.globals = memory.globals

namespace Memory.SameSymbols

variable {memory between after : Memory σ}

theorem refl (memory : Memory σ) : memory.SameSymbols memory := ⟨rfl, rfl⟩

theorem trans (first : memory.SameSymbols between) (second : between.SameSymbols after) :
    memory.SameSymbols after :=
  ⟨second.locals.trans first.locals, second.globals.trans first.globals⟩

theorem lookup (same : memory.SameSymbols after) (name : String) :
    after.lookup name = memory.lookup name := by
  rw [Memory.lookup, Memory.lookup, same.locals, same.globals]

theorem isConstant (same : memory.SameSymbols after) (name : String) :
    after.isConstant name = memory.isConstant name := by
  rw [Memory.isConstant, Memory.isConstant, same.locals, same.globals]

theorem assign (same : memory.SameSymbols after) (scope : Scope) (target : String) (value : Value) :
    (memory.assign scope target value).SameSymbols (after.assign scope target value) := by
  obtain ⟨locals, globals, sink, chance⟩ := memory
  obtain ⟨locals', globals', sink', chance'⟩ := after
  obtain ⟨rfl, rfl⟩ : locals' = locals ∧ globals' = globals := ⟨same.locals, same.globals⟩
  unfold Memory.assign
  dsimp only [writesGlobal]
  split
  · exact ⟨rfl, rfl⟩
  · exact ⟨rfl, rfl⟩

end Memory.SameSymbols

/-! ### Functions that change no symbols -/

variable [EventSink σ]

/-- Whether no function of the registry changes the locals of its caller. None can change the
globals. -/
def Registry.KeepsSymbols (σ : Type) [EventSink σ] (registry : Registry) : Prop :=
  ∀ name function, registry.get? name = some function → ∀ caller arguments,
    ∀ memory : Memory σ, ((function.handler caller arguments).perform memory).2.locals =
      memory.locals

theorem Builtin.registry_keepsSymbols : Builtin.registry.KeepsSymbols σ := by
  intro name function found caller arguments memory
  cases pure : function.hasSideEffects with
  | false => exact (registry_isHonest name function found pure caller arguments memory).1
  | true =>
    have member := Registry.mem_of_get?_ofList found
    simp only [List.mem_cons, Prod.mk.injEq, List.not_mem_nil, or_false] at member
    rcases member with
      ⟨-, rfl⟩ | ⟨-, rfl⟩ | ⟨-, rfl⟩ | ⟨-, rfl⟩ | ⟨-, rfl⟩ | ⟨-, rfl⟩ | ⟨-, rfl⟩ | ⟨-, rfl⟩
    · cases pure
    · cases pure
    · cases pure
    · cases pure
    · change ((Builtin.randint arguments).perform memory).2.locals = memory.locals
      unfold Builtin.randint
      split
      · rfl
      · rfl
    · rfl
    · exact (Procedure.isQuiet_ofExcept _ memory).1
    · change ((Builtin.triggerEvent caller arguments).perform memory).2.locals = memory.locals
      unfold Builtin.triggerEvent
      split
      · rfl
      · next event _ =>
        rw [Procedure.perform]
        rcases EventSink.trigger event memory.sink with ⟨_ | _, sink⟩
        · rfl
        · rfl

namespace Machine

section Calls

variable {context : Context} (keeps : context.registry.KeepsSymbols σ)

include keeps

theorem Invokes.symbols {calls : List (String × Nat)} {refusal : Option HandlerError}
    {memory after : Memory σ} (invokes : Invokes context calls memory refusal after) :
    memory.SameSymbols after := by
  have performed {name : String} {function : Function}
      (registered : context.registry.get? name = some function) (arguments : List Value)
      (memory : Memory σ) :
      memory.SameSymbols ((function.handler context.self arguments).perform memory).2 :=
    ⟨keeps name function registered _ _ memory, Procedure.perform_globals _ memory⟩
  induction invokes with
  | nothing memory => exact .refl memory
  | @returned name function arguments _ _ _ memory between _ registered _ ran _ ih =>
    have same := performed registered arguments memory
    rw [ran] at same
    exact same.trans ih
  | @failed name function arguments _ memory _ registered _ ran =>
    have same := performed registered arguments memory
    rwa [ran] at same

theorem Calls.symbols {α : Type} {calls : List (String × Nat)} {action : Run σ Halt α}
    (made : Calls context calls action) (memory : Memory σ) :
    memory.SameSymbols (action memory).2 := by
  have outcome := made memory
  rcases ended : action memory with ⟨halt | value, after⟩
  · rw [ended] at outcome
    obtain ⟨_, _, -, invokes, -⟩ := outcome
    exact invokes.symbols keeps
  · rw [ended] at outcome
    exact Invokes.symbols keeps outcome

end Calls

end Machine

/-! ### Assignments -/

structure Assignment where
  scope : Scope
  target : String
  value : Value
  deriving DecidableEq

def Memory.make (memory : Memory σ) (assignment : Assignment) : Memory σ :=
  memory.assign assignment.scope assignment.target assignment.value

omit [EventSink σ] in
theorem Memory.SameSymbols.foldl_make {memory after : Memory σ} (same : memory.SameSymbols after)
    (made : List Assignment) :
    (made.foldl Memory.make memory).SameSymbols (made.foldl Memory.make after) := by
  induction made generalizing memory after with
  | nil => exact same
  | cons assignment made ih => exact ih (same.assign _ _ _)

def Context.Allows (context : Context) (memory : Memory σ) (name : String) : Prop :=
  memory.isConstant name = false ∧ context.constants.isConstant name = false

def Command.assignee? : Command → Option (Scope × String)
  | perform (.assign scope target _) => some (scope, target)
  | _ => none

namespace Machine

/-- The assignment that a command comes to, if it is to make one and its code has a value. -/
def assignment? (context : Context) (memory : Memory σ) : Command → Option Assignment
  | .perform (.assign scope target code) =>
    match (evaluate context code memory).1 with
    | .ok (some value) => some ⟨scope, target, value⟩
    | _ => none
  | _ => none

variable {context : Context}

theorem assignee?_of_assignment? {memory : Memory σ} {command : Command} {assignment : Assignment}
    (made : assignment? context memory command = some assignment) :
    command.assignee? = some (assignment.scope, assignment.target) := by
  unfold assignment? at made
  split at made
  · split at made
    · cases made
      rfl
    · cases made
  · cases made

section Symbols

variable (keeps : context.registry.KeepsSymbols σ) {memory after : Memory σ}

include keeps

theorem perform_assign_ok {scope : Scope} {target : String} {code : Postfix}
    {last result : Option Value}
    (performed : perform context (.assign scope target code) last memory = (.ok result, after)) :
    ∃ value, assignment? context memory (.perform (.assign scope target code)) =
        some ⟨scope, target, value⟩ ∧
      context.Allows memory target ∧ (memory.assign scope target value).SameSymbols after := by
  obtain ⟨value, between, ended, performed⟩ := Run.bind_ok performed
  have evaluated := (evaluate_calls code).symbols keeps memory
  rw [ended] at evaluated
  cases value with
  | none => cases performed
  | some value =>
    obtain ⟨_, left, assigned, finished⟩ := Run.bind_ok performed
    rw [assign_apply] at assigned
    split at assigned
    · cases assigned
    · next allowed =>
      cases assigned
      cases finished
      refine ⟨value, ?_, ?_, evaluated.assign scope target value⟩
      · rw [assignment?, ended]
      · rw [evaluated.isConstant, Bool.not_eq_true, Bool.or_eq_false_iff] at allowed
        exact allowed

theorem carryOut_symbols_error {execution : Execution} {index : Nat} {statement : Statement}
    {failure : Failure}
    (failed : carryOut context execution index statement memory = (.error failure, after)) :
    memory.SameSymbols after := by
  obtain ⟨-, -, code, -, made, refusal, -, invokes, -⟩ := carryOut_interrupts failed
  exact invokes.symbols keeps

/-- A statement that does not fail makes its assignment, if it has one, and changes no symbols
otherwise. -/
theorem carryOut_symbols_ok {execution later : Execution} {index next : Nat}
    {statement : Statement}
    (carried : carryOut context execution index statement memory = (.ok (later, next), after)) :
    match assignment? context memory statement.command with
    | some assignment =>
      context.Allows memory assignment.target ∧ (memory.make assignment).SameSymbols after
    | none => statement.command.assignee? = none ∧ memory.SameSymbols after := by
  obtain ⟨line, command⟩ := statement
  cases command with
  | perform step =>
    obtain ⟨last, between, performed, finished⟩ := Run.bind_ok carried
    cases finished
    have performed := Run.adapt_ok performed
    cases step with
    | evaluate code =>
      have same := (evaluate_calls code).symbols keeps memory
      change evaluate context code memory = (.ok last, after) at performed
      rw [performed] at same
      exact ⟨rfl, same⟩
    | assign scope target code =>
      obtain ⟨value, made, allowed, same⟩ := perform_assign_ok keeps performed
      rw [made]
      exact ⟨allowed, same⟩
  | branch condition target =>
    obtain ⟨holds, between, tested, finished⟩ := Run.bind_ok carried
    cases finished
    have same := (test_calls condition).symbols keeps memory
    rw [Run.adapt_ok tested] at same
    exact ⟨rfl, same⟩
  | jump target =>
    cases carried
    exact ⟨rfl, .refl memory⟩

end Symbols

theorem carryOut_symbols (keeps : context.registry.KeepsSymbols σ) (execution : Execution)
    (index : Nat) (statement : Statement) (memory : Memory σ) :
    memory.SameSymbols (carryOut context execution index statement memory).2 ∨
      ∃ assignment : Assignment,
        statement.command.assignee? = some (assignment.scope, assignment.target) ∧
          context.Allows memory assignment.target ∧
          (memory.make assignment).SameSymbols
            (carryOut context execution index statement memory).2 := by
  rcases carried : carryOut context execution index statement memory with
    ⟨failure | ⟨later, next⟩, after⟩
  · exact .inl (carryOut_symbols_error keeps carried)
  · have symbols := carryOut_symbols_ok keeps carried
    split at symbols
    · next assignment made =>
      exact .inr ⟨assignment, assignee?_of_assignment? made, symbols⟩
    · exact .inl symbols.2

/-! ### On the way -/

/-- How the machine comes from one statement to another, with the assignments that it makes on the
way, in order. -/
inductive Makes (context : Context) (block : Block) :
    Execution → Nat → Memory σ → List Assignment → Execution → Nat → Memory σ → Prop where
  | here (execution : Execution) (pc : Nat) (memory : Memory σ) :
    Makes context block execution pc memory [] execution pc memory
  | turn {execution later final : Execution} {pc next last : Nat}
    {memory between after : Memory σ} {made : List Assignment} (inside : pc < block.length)
    (carried : carryOut context execution pc block[pc] memory = (.ok (later, next), between))
    (rest : Makes context block later next between made final last after) :
    Makes context block execution pc memory
      ((assignment? context memory block[pc].command).toList ++ made) final last after

inductive Stops (context : Context) (block : Block) (execution : Execution) (pc : Nat)
    (memory : Memory σ) : Except Failure Execution × Memory σ → Prop where
  | outside (outside : block.length ≤ pc) : Stops context block execution pc memory
    (.ok execution, memory)
  | failed {after : Memory σ} {failure : Failure} (inside : pc < block.length)
    (failed : carryOut context execution pc block[pc] memory = (.error failure, after)) :
    Stops context block execution pc memory (.error failure, after)

/-- The symbols on the way are those that the assignments have made of the first ones. All of these
are assignments of the block to names that are no constants. -/
theorem Makes.symbols (keeps : context.registry.KeepsSymbols σ) {block : Block}
    {execution reached : Execution} {pc last : Nat} {memory before : Memory σ}
    {made : List Assignment}
    (makes : Makes context block execution pc memory made reached last before) :
    (made.foldl Memory.make memory).SameSymbols before ∧
      ∀ assignment ∈ made, context.Allows memory assignment.target ∧
        ∃ statement ∈ block,
          statement.command.assignee? = some (assignment.scope, assignment.target) := by
  induction makes with
  | here _ _ memory => exact ⟨.refl memory, nofun⟩
  | @turn _ _ _ pc _ _ memory between _ made inside carried _ ih =>
    -- The rest makes its assignments in a memory that this statement may have assigned in; which
    -- names are constants is the same in both.
    obtain ⟨same, allowed⟩ := ih
    have symbols := carryOut_symbols_ok keeps carried
    cases first : assignment? context memory block[pc].command with
    | none =>
      rw [first] at symbols
      refine ⟨(symbols.2.foldl_make made).trans same, ?_⟩
      intro assignment member
      obtain ⟨⟨free, engine⟩, assigned⟩ := allowed assignment member
      exact ⟨⟨(symbols.2.isConstant _).symm.trans free, engine⟩, assigned⟩
    | some assignment =>
      rw [first] at symbols
      refine ⟨(symbols.2.foldl_make made).trans same, ?_⟩
      intro other member
      rcases List.mem_cons.mp member with rfl | member
      · exact ⟨symbols.1, block[pc], List.getElem_mem inside, assignee?_of_assignment? first⟩
      · obtain ⟨⟨free, engine⟩, assigned⟩ := allowed other member
        rw [symbols.2.isConstant, Memory.make, Memory.isConstant_assign] at free
        exact ⟨⟨free, engine⟩, assigned⟩

theorem Stops.symbols (keeps : context.registry.KeepsSymbols σ) {block : Block}
    {execution : Execution} {pc : Nat} {memory : Memory σ}
    {outcome : Except Failure Execution × Memory σ}
    (stops : Stops context block execution pc memory outcome) : memory.SameSymbols outcome.2 := by
  cases stops with
  | outside => exact .refl memory
  | failed _ failed => exact carryOut_symbols_error keeps failed

/-- The machine ends where it stops, after the assignments that it has made by then. -/
theorem ends_iff_makes {block : Block} {execution : Execution} {pc : Nat} {memory : Memory σ}
    {outcome : Except Failure Execution × Memory σ} :
    Ends context block execution pc memory outcome ↔
      ∃ made reached last before, Makes context block execution pc memory made reached last before ∧
        Stops context block reached last before outcome := by
  constructor
  · intro ends
    induction ends with
    | @outside execution pc memory outside =>
      exact ⟨[], execution, pc, memory, .here _ _ _, .outside outside⟩
    | @failed execution pc memory _ _ inside failed =>
      exact ⟨[], execution, pc, memory, .here _ _ _, .failed inside failed⟩
    | turn inside carried _ ih =>
      obtain ⟨made, reached, last, before, makes, stops⟩ := ih
      exact ⟨_, reached, last, before, .turn inside carried makes, stops⟩
  · rintro ⟨made, reached, last, before, makes, stops⟩
    induction makes with
    | here =>
      cases stops with
      | outside outside => exact .outside outside
      | failed inside failed => exact .failed inside failed
    | turn inside carried _ ih => exact .turn inside carried (ih stops)

end Machine

end EventScript
