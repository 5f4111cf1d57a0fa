import EventScript.Proofs.Machine.Failures
import EventScript.Proofs.Machine.Hidden
import EventScript.Proofs.Memory.Changes

/-!
# Changes in a run

What a run asks of its locals or of its globals: the changes that the functions it calls make, which
are given the locals only, and the assignments of its statements. The run leaves what these make of
the table, whether or not it fails.
-/

namespace EventScript

open SymbolTable (Change)

inductive Role where
  | locals
  | globals
  deriving DecidableEq

variable {σ : Type}

namespace Memory

def table? (memory : Memory σ) : Role → Option SymbolTable
  | .locals => some memory.locals
  | .globals => memory.globals

def place (memory : Memory σ) (table : SymbolTable) : Role → Memory σ
  | .locals => { memory with locals := table }
  | .globals => { memory with globals := some table }

theorem table?_place (memory : Memory σ) (table : SymbolTable) (role : Role) :
    (memory.place table role).table? role = some table := by
  cases role with
  | locals => rfl
  | globals => rfl

def role (memory : Memory σ) (name : String) (scope : Scope) : Role :=
  if memory.globals.isSome && memory.writesGlobal name scope then .globals else .locals

theorem table?_assign (memory : Memory σ) (scope : Scope) (name : String) (value : Value)
    (role : Role) :
    (memory.assign scope name value).table? role =
      if memory.role name scope = role then (memory.table? role).map (·.assigned name value)
      else memory.table? role := by
  obtain ⟨locals, _ | globals, sink, chance⟩ := memory
  · cases role with
    | locals => rfl
    | globals => rfl
  · unfold assign Memory.role
    rw [Option.isSome_some, Bool.true_and]
    cases writesGlobal ⟨locals, some globals, sink, chance⟩ name scope with
    | true =>
      cases role with
      | locals => rfl
      | globals => rfl
    | false =>
      cases role with
      | locals => rfl
      | globals => rfl

end Memory

/-! ### Computations -/

namespace Run

variable {ε ε' α β : Type}

def onward (action : Run σ ε α) (later : α → Memory σ → List Change) (memory : Memory σ) :
    List Change :=
  match action memory with
  | (.ok value, after) => later value after
  | (.error _, _) => []

/-- Whether the computation asks these changes of the table in that role, which are all permitted,
and leaves what they make of it. -/
structure Asks (role : Role) (permits : Change → Prop) (action : Run σ ε α)
    (changes : Memory σ → List Change) : Prop where
  table : ∀ memory,
    (action memory).2.table? role = (memory.table? role).map (·.changed (changes memory))
  permitted : ∀ memory, ∀ change ∈ changes memory, permits change

variable {role : Role} {permits : Change → Prop} {action : Run σ ε α} {next : α → Run σ ε β}
  {changes : Memory σ → List Change}

theorem asks_nothing (unchanged : ∀ memory, (action memory).2 = memory) :
    Asks role permits action fun _ => [] := by
  refine ⟨fun memory => ?_, nofun⟩
  rw [unchanged memory, SymbolTable.map_changed_nil]

theorem Asks.bind {later : α → Memory σ → List Change} (asks : Asks role permits action changes)
    (continued : ∀ value, Asks role permits (next value) (later value)) :
    Asks role permits (action >>= next) fun memory =>
      changes memory ++ action.onward later memory := by
  refine ⟨fun memory => ?_, fun memory change member => ?_⟩
  · have first := asks.table memory
    rw [bind_apply, onward]
    rcases ended : action memory with ⟨error | value, after⟩
    · -- After a failure nothing more is asked; the first changes remain.
      rw [ended] at first
      rw [List.append_nil]
      exact first
    · rw [ended] at first
      dsimp only at first ⊢
      rw [(continued value).table after, first, Option.map_map]
      exact congrArg (Option.map · _) (funext fun table => (table.changed_append _ _).symm)
  · rcases List.mem_append.mp member with here | there
    · exact asks.permitted memory change here
    · unfold onward at there
      split at there
      · next value after _ => exact (continued value).permitted after change there
      · cases there

/-- What leaves memory as it is asks nothing further. -/
theorem Asks.bind_unchanged (asks : Asks role permits action changes)
    (unchanged : ∀ value memory, (next value memory).2 = memory) :
    Asks role permits (action >>= next) changes := by
  have both := asks.bind fun value => asks_nothing (unchanged value)
  have nothing : ∀ memory, action.onward (fun _ _ => []) memory = [] := by
    intro memory
    unfold onward
    split
    · rfl
    · rfl
  simpa only [nothing, List.append_nil] using both

theorem Asks.adapt (asks : Asks role permits action changes) (f : ε → ε') :
    Asks role permits (ExceptT.adapt f action : Run σ ε' α) changes :=
  ⟨asks.table, asks.permitted⟩

end Run

variable [EventSink σ]

/-! ### Functions -/

def Procedure.changes : Procedure → Memory σ → List Change
  | done _, _ => []
  | fail _, _ => []
  | trigger event next, memory =>
    let (answer, sink) := EventSink.trigger event memory.sink
    (next answer).changes { memory with sink }
  | read next, memory => (next memory.locals).changes memory
  | assign name value next, memory =>
    .assign name value ::
      match memory.locals.assign? name value with
      | some locals => (next true).changes { memory with locals }
      | none => (next false).changes memory
  | declare name value next, memory =>
    .declare name value ::
      next.changes { memory with locals := memory.locals.declare name value }
  | erase name next, memory =>
    .erase name :: next.changes { memory with locals := memory.locals.erase name }
  | replace locals next, memory => .replace locals :: next.changes { memory with locals }
  | draw bound next, memory =>
    let (number, chance) := memory.chance.draw bound
    (next number).changes { memory with chance }
  | clock next, memory => (next memory.chance.clock).changes memory

theorem Procedure.perform_locals (procedure : Procedure) (memory : Memory σ) :
    (procedure.perform memory).2.locals =
      memory.locals.changed (procedure.changes memory) := by
  induction procedure generalizing memory with
  | done result => rfl
  | fail error => rfl
  | trigger event next ih => exact ih _ _
  | read next ih => exact ih _ _
  | assign name value next ih =>
    rw [perform, changes, SymbolTable.changed, List.foldl_cons, SymbolTable.change,
      SymbolTable.assigned]
    split
    · next locals assigned =>
      rw [assigned]
      exact ih _ _
    · next refused =>
      rw [refused]
      exact ih _ _
  | declare name value next ih => exact ih _
  | erase name next ih => exact ih _
  | replace locals next ih => exact ih _
  | draw bound next ih => exact ih _ _
  | clock next ih => exact ih _ _

def Procedure.InPlace : Procedure → Prop
  | done _ => True
  | fail _ => True
  | trigger _ next => ∀ answer, (next answer).InPlace
  | read next => ∀ locals, (next locals).InPlace
  | assign _ _ next => ∀ accepted, (next accepted).InPlace
  | declare _ _ next => next.InPlace
  | erase _ next => next.InPlace
  | replace _ _ => False
  | draw _ next => ∀ number, (next number).InPlace
  | clock next => ∀ seconds, (next seconds).InPlace

theorem Procedure.InPlace.changes {procedure : Procedure} (inPlace : procedure.InPlace)
    (memory : Memory σ) : ∀ change ∈ procedure.changes memory, change.InPlace := by
  induction procedure generalizing memory with
  | done result => nofun
  | fail error => nofun
  | trigger event next ih => exact ih _ (inPlace _) _
  | read next ih => exact ih _ (inPlace _) _
  | assign name value next ih =>
    rw [Procedure.changes]
    split
    · exact List.forall_mem_cons.mpr ⟨trivial, ih _ (inPlace _) _⟩
    · exact List.forall_mem_cons.mpr ⟨trivial, ih _ (inPlace _) _⟩
  | declare name value next ih => exact List.forall_mem_cons.mpr ⟨trivial, ih inPlace _⟩
  | erase name next ih => exact List.forall_mem_cons.mpr ⟨trivial, ih inPlace _⟩
  | replace locals next ih => exact inPlace.elim
  | draw bound next ih => exact ih _ (inPlace _) _
  | clock next ih => exact ih _ (inPlace _) _

def Function.changes (function : Function) (caller : Option InstanceId) (arguments : List Value)
    (memory : Memory σ) : Role → List Change
  | .locals =>
    if function.arity.accepts arguments.length then
      (function.handler caller arguments).changes memory
    else []
  | .globals => []

theorem Function.table?_call (function : Function) (name : String) (caller : Option InstanceId)
    (arguments : List Value) (memory : Memory σ) (role : Role) :
    (function.call name caller arguments memory).2.table? role =
      (memory.table? role).map (·.changed (function.changes caller arguments memory role)) := by
  unfold call
  cases role with
  | locals =>
    rw [changes]
    split
    · exact congrArg some (Procedure.perform_locals _ memory)
    · rfl
  | globals =>
    rw [changes, SymbolTable.map_changed_nil]
    split
    · exact Procedure.perform_globals _ memory
    · rfl

def Registry.InPlace (registry : Registry) : Prop :=
  ∀ name function, registry.get? name = some function →
    ∀ caller arguments, (function.handler caller arguments).InPlace

/-! ### Statements -/

namespace Machine

variable (context : Context) (role : Role)

def instructionChanges : Instruction → List Slot → Memory σ → List Change
  | .call name count, stack, memory =>
    match context.registry.get? name, Slot.pop count stack with
    | some function, .ok (slots, _) =>
      function.changes context.self (slots.map Slot.value) memory role
    | _, _ => []
  | _, _, _ => []

def codeChanges : Postfix → List Slot → Memory σ → List Change
  | [], _, _ => []
  | instruction :: code, stack, memory =>
    instructionChanges context role instruction stack memory ++
      (execute context instruction stack).onward (codeChanges code) memory

/-- What it asks to assign the value, if there is one. The name of a constant, be it of another
table, is refused before any table is asked. -/
def assignChanges (scope : Scope) (target : String) : Option Value → Memory σ → List Change
  | none, _ => []
  | some value, memory =>
    if memory.isConstant target || context.constants.isConstant target then []
    else if memory.role target scope = role then [.assign target value] else []

def commandChanges : Command → Memory σ → List Change
  | .perform (.evaluate code), memory => codeChanges context role code [] memory
  | .perform (.assign scope target code), memory =>
    codeChanges context role code [] memory ++
      (evaluate context code).onward (assignChanges context role scope target) memory
  | .branch condition _, memory => codeChanges context role condition [] memory
  | .jump _, _ => []

def runChanges (execution : Execution) (index resume : Nat) : Block → Memory σ → List Change
  | [] => fun _ => []
  | statement :: block =>
    if index < resume then runChanges execution (index + 1) resume block
    else fun memory =>
      commandChanges context role statement.command memory ++
        (carryOut context execution index statement).onward
          (fun (execution, next) => runChanges execution (index + 1) next block) memory

variable {context role} {permits : Change → Prop}

/-- An instruction that calls nothing leaves memory as it is. -/
theorem execute_unchanged {instruction : Instruction}
    (noCall : Postfix.calls [instruction] = []) (stack : List Slot) (memory : Memory σ) :
    (execute context instruction stack memory).2 = memory := by
  have calls : Calls context (Postfix.calls [instruction])
      (execute context instruction stack : Run σ Halt (List Slot)) :=
    execute_calls instruction stack
  have outcome := calls memory
  rw [noCall] at outcome
  rcases ended : execute context instruction stack memory with ⟨halt | _, after⟩
  · rw [ended] at outcome
    obtain ⟨made, _, early, invokes, -⟩ := outcome
    obtain rfl := List.prefix_nil.mp early
    exact invokes.unchanged
  · rw [ended] at outcome
    exact Invokes.unchanged outcome

section Permitted

variable
  (handlers : ∀ name function, context.registry.get? name = some function →
    ∀ caller arguments (memory : Memory σ),
      ∀ change ∈ function.changes caller arguments memory role, permits change)
  (assigns : ∀ name value, permits (.assign name value))

section Calls

include handlers

theorem call_asks {name : String} {function : Function}
    (registered : context.registry.get? name = some function) (arguments : List Value) :
    Run.Asks role permits
      (call context name function arguments : Run σ Halt (Option Value))
      fun memory => function.changes context.self arguments memory role :=
  ⟨fun memory => function.table?_call name context.self arguments memory role,
    handlers name function registered context.self arguments⟩

theorem execute_asks (instruction : Instruction) (stack : List Slot) :
    Run.Asks role permits (execute context instruction stack : Run σ Halt (List Slot))
      (instructionChanges context role instruction stack) := by
  cases instruction with
  | push value => exact Run.asks_nothing (execute_unchanged rfl stack)
  | load name => exact Run.asks_nothing (execute_unchanged rfl stack)
  | operate op => exact Run.asks_nothing (execute_unchanged rfl stack)
  | call name count =>
    unfold execute instructionChanges
    dsimp only
    cases found : context.registry.get? name with
    | none => exact Run.asks_nothing fun _ => rfl
    | some function =>
      cases popped : Slot.pop count stack with
      | error halt => exact Run.asks_nothing fun _ => rfl
      | ok taken =>
        refine (call_asks handlers found _).bind_unchanged fun value memory => ?_
        cases value with
        | none =>
          cases function.returnsValue with
          | true => rfl
          | false => rfl
        | some value =>
          cases function.returnsValue with
          | true => exact congrArg Prod.snd (Run.ofExcept_apply _ memory)
          | false => rfl

theorem executeAll_asks (code : Postfix) (stack : List Slot) :
    Run.Asks role permits (executeAll context code stack : Run σ Halt (List Slot))
      (codeChanges context role code stack) := by
  induction code generalizing stack with
  | nil => exact Run.asks_nothing fun _ => rfl
  | cons instruction code ih => exact (execute_asks handlers instruction stack).bind ih

theorem evaluate_asks (code : Postfix) :
    Run.Asks role permits (evaluate context code : Run σ Halt (Option Value))
      (codeChanges context role code []) :=
  (executeAll_asks handlers code []).bind_unchanged fun _ _ => rfl

theorem test_asks (condition : Postfix) :
    Run.Asks role permits (test context condition : Run σ Halt Bool)
      (codeChanges context role condition []) := by
  refine (evaluate_asks handlers condition).bind_unchanged fun value memory => ?_
  cases value with
  | none => rfl
  | some value =>
    dsimp only
    cases value.truth with
    | ok b => rfl
    | error cause => rfl

end Calls

include assigns in
omit [EventSink σ] in
theorem assign_asks (scope : Scope) (target : String) (value : Value) :
    Run.Asks role permits (assign context scope target value : Run σ Halt Unit)
      (assignChanges context role scope target (some value)) := by
  refine ⟨fun memory => ?_, fun memory change member => ?_⟩
  · rw [assign_apply, assignChanges]
    split
    · exact (SymbolTable.map_changed_nil _).symm
    · dsimp only
      rw [Memory.table?_assign]
      split
      · rfl
      · exact (SymbolTable.map_changed_nil _).symm
  · rw [assignChanges] at member
    split at member
    · cases member
    · split at member
      · obtain rfl := List.mem_singleton.mp member
        exact assigns target value
      · cases member

include handlers assigns

theorem perform_asks (step : Step) (last : Option Value) :
    Run.Asks role permits (perform context step last : Run σ Halt (Option Value))
      (commandChanges context role (.perform step)) := by
  cases step with
  | evaluate code => exact evaluate_asks handlers code
  | assign scope target code =>
    refine (evaluate_asks handlers code).bind fun value => ?_
    cases value with
    | none => exact Run.asks_nothing fun _ => rfl
    | some value =>
      exact (assign_asks assigns scope target value).bind_unchanged fun _ _ => rfl

theorem carryOut_asks (execution : Execution) (index : Nat) (statement : Statement) :
    Run.Asks role permits
      (carryOut context execution index statement : Run σ Failure (Execution × Nat))
      (commandChanges context role statement.command) := by
  obtain ⟨line, command⟩ := statement
  cases command with
  | perform step =>
    have performs := perform_asks handlers assigns step execution.lastValue
    exact (performs.adapt _).bind_unchanged fun _ _ => rfl
  | branch condition target =>
    exact ((test_asks handlers condition).adapt _).bind_unchanged fun _ _ => rfl
  | jump target => exact Run.asks_nothing fun _ => rfl

theorem runFrom_asks (execution : Execution) (index resume : Nat) (block : Block) :
    Run.Asks role permits
      (runFrom context execution index resume block : Run σ Failure Execution)
      (runChanges context role execution index resume block) := by
  induction block generalizing execution index resume with
  | nil => exact Run.asks_nothing fun _ => rfl
  | cons statement block ih =>
    unfold runFrom runChanges
    split
    · exact ih execution (index + 1) resume
    · have first := carryOut_asks handlers assigns execution index statement
      exact first.bind fun reached => ih reached.1 (index + 1) reached.2

end Permitted

end Machine

namespace Block

def changes (block : Block) (context : Context) (role : Role) (memory : Memory σ) : List Change :=
  Machine.runChanges context role {} 0 0 block memory

variable (block : Block) (context : Context) (role : Role) (memory : Memory σ)

theorem run_table? :
    (block.run context memory).2.table? role =
      (memory.table? role).map (·.changed (block.changes context role memory)) := by
  rw [block.run_memory]
  have asks : Run.Asks role (fun _ => True) (Machine.run context block : Run σ Failure Execution)
      (block.changes context role) :=
    Machine.runFrom_asks (fun _ _ _ _ _ _ _ _ => trivial) (fun _ _ => trivial) {} 0 0 block
  exact asks.table memory

/-- Among the globals, which no function is given, a table is always changed in place. -/
theorem changes_inPlace (inPlace : role = .locals → context.registry.InPlace) :
    ∀ change ∈ block.changes context role memory, change.InPlace := by
  refine (Machine.runFrom_asks ?_ (fun _ _ => trivial) {} 0 0 block).permitted memory
  intro name function registered caller arguments memory
  cases role with
  | locals =>
    rw [Function.changes]
    split
    · exact (inPlace rfl name function registered caller arguments).changes memory
    · nofun
  | globals => nofun

end Block

end EventScript
