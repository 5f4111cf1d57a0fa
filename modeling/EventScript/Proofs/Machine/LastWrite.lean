import EventScript.Proofs.Machine.Assignments

/-!
# Reading the last write

A name that a block assigns in one scope only reads as the value last assigned to it.
-/

namespace EventScript

def lastValue? (name : String) : List Assignment → Option Value
  | [] => none
  | assignment :: made =>
    (lastValue? name made).or (if assignment.target = name then some assignment.value else none)

variable {σ : Type}

namespace Memory

variable {memory : Memory σ} {name : String} {scope : Scope}

/-- Whether a name that is assigned in this scope only reads as what is assigned: no local of the
name stands in front of a global one. -/
def Shows (memory : Memory σ) (name : String) : Scope → Prop
  | .nearest => True
  | .global => memory.globals = none ∨ memory.locals.contains name = false

theorem lookup_assign_self (shows : memory.Shows name scope) (free : memory.isConstant name = false)
    (value : Value) : (memory.assign scope name value).lookup name = some value := by
  obtain ⟨freeLocal, freeGlobal⟩ := Bool.or_eq_false_iff.mp free
  rcases memory.assign_cases scope name value with ⟨globals, given, placed, eq⟩ | ⟨-, eq⟩
  · have absent : memory.locals.contains name = false := by
      rcases placed with rfl | ⟨-, absent⟩
      · rcases shows with none | absent
        · rw [given] at none
          cases none
        · exact absent
      · exact absent
    rw [SymbolTable.contains, Option.isSome_eq_false_iff, Option.isNone_iff_eq_none] at absent
    rw [given, Option.any_some] at freeGlobal
    rw [eq, lookup, absent, Option.none_or, Option.bind_some]
    exact SymbolTable.lookup_assigned_self freeGlobal value
  · rw [eq, lookup, SymbolTable.lookup_assigned_self freeLocal value, Option.some_or]

/-- An assignment in another scope is of another name. -/
theorem Shows.make (shows : memory.Shows name scope) {assignment : Assignment}
    (placed : assignment.target = name → assignment.scope = scope) :
    (memory.make assignment).Shows name scope := by
  cases scope with
  | nearest => trivial
  | global =>
    obtain ⟨other, target, value⟩ := assignment
    rcases memory.assign_cases other target value with ⟨globals, given, -, eq⟩ | ⟨stays, eq⟩
    · rw [Memory.make, eq]
      rcases shows with none | absent
      · rw [given] at none
        cases none
      · exact .inr absent
    · rw [Memory.make, eq]
      rcases shows with none | absent
      · exact .inl none
      · by_cases same : target = name
        · -- Assigned among the globals, so it is a local only where there are none.
          rcases stays with none | ⟨plain, -⟩
          · exact .inl none
          · cases plain.symm.trans (placed same)
        · refine .inr ?_
          rwa [SymbolTable.contains, memory.locals.lookup_assigned_other same]

theorem lookup_foldl_make (shows : memory.Shows name scope) (free : memory.isConstant name = false)
    {made : List Assignment}
    (placed : ∀ assignment ∈ made, assignment.target = name → assignment.scope = scope) :
    (made.foldl make memory).lookup name = (lastValue? name made).or (memory.lookup name) := by
  induction made generalizing memory with
  | nil => rfl
  | cons assignment made ih =>
    have here := placed assignment List.mem_cons_self
    have later := fun other member => placed other (List.mem_cons_of_mem assignment member)
    have stays : (memory.make assignment).isConstant name = false := by
      rwa [Memory.make, isConstant_assign]
    rw [List.foldl_cons, ih (shows.make here) stays later, lastValue?, Option.or_assoc]
    congr 1
    by_cases same : assignment.target = name
    · rw [if_pos same, Option.some_or, Memory.make, here same, same]
      exact lookup_assign_self shows free assignment.value
    · rw [if_neg same, Option.none_or, Memory.make]
      exact memory.lookup_assign_other _ same _

end Memory

theorem exists_mem_of_lastValue? {name : String} {made : List Assignment} {value : Value}
    (last : lastValue? name made = some value) :
    ∃ assignment ∈ made, assignment.target = name := by
  induction made with
  | nil => cases last
  | cons assignment made ih =>
    rw [lastValue?, Option.or_eq_some_iff] at last
    rcases last with later | ⟨-, here⟩
    · obtain ⟨other, member, same⟩ := ih later
      exact ⟨other, List.mem_cons_of_mem _ member, same⟩
    · split at here
      · next same => exact ⟨assignment, List.mem_cons_self, same⟩
      · cases here

variable [EventSink σ]

def Machine.Loads (context : Context) (memory : Memory σ) (name : String) (value : Value) : Prop :=
  ∀ stack, execute context (.load name) stack memory =
    (context.push ⟨value, false⟩ stack, memory)

theorem Machine.loads_of_lookup {context : Context} {memory : Memory σ} {name : String}
    {value : Value} (free : context.parameters[name]? = none)
    (found : memory.lookup name = some value) : Loads context memory name value := by
  intro stack
  have read : context.lookup memory name = some value := by
    rw [Context.lookup, free, found]
    rfl
  have resolved : context.resolve memory name = .ok ⟨value, false⟩ := by
    rw [Context.resolve, read]
  change (MonadExcept.ofExcept (context.resolve memory name) >>= fun slot =>
    MonadExcept.ofExcept (context.push slot stack) : Run σ Halt (List Slot)) memory = _
  rw [resolved]
  exact Run.ofExcept_apply _ memory

/-- A name that is no parameter, and that the block assigns by plain assignments only, or by global
ones only while the locals do not hold it: once it is assigned, whatever loads it later in the run
gives the value last assigned to it, and so does whatever loads it in a later run first, on the
tables that the run has left. -/
theorem Block.reads_last_write {context : Context} (keeps : context.registry.KeepsSymbols σ)
    {block : Block} {memory : Memory σ} {name : String} {scope : Scope}
    (free : context.parameters[name]? = none)
    (placed : ∀ statement ∈ block, ∀ other,
      statement.command.assignee? = some (other, name) → other = scope)
    (shown : scope = .global → memory.locals.contains name = false)
    {made : List Assignment} {execution : Execution} {index : Nat} {before : Memory σ}
    (makes : Machine.Makes context block {} 0 memory made execution index before) {value : Value}
    (last : lastValue? name made = some value) :
    (∀ (inside : index < block.length) (first rest : Postfix) (stack : List Slot)
      (between : Memory σ),
      block[index].command.code? = some (first ++ .load name :: rest) →
      Machine.executeAll context first [] before = (.ok stack, between) →
      Machine.Loads context between name value) ∧
    ∀ outcome after, Machine.Stops context block execution index before (outcome, after) →
      ∀ (τ : Type) [EventSink τ] (next : Context) (later : Memory τ),
        next.parameters[name]? = none → later.locals = after.locals →
        later.globals = after.globals → Machine.Loads next later name value := by
  obtain ⟨same, assigned⟩ := makes.symbols keeps
  have notConstant : memory.isConstant name = false := by
    obtain ⟨assignment, member, target⟩ := exists_mem_of_lastValue? last
    obtain ⟨⟨allowed, -⟩, -⟩ := assigned assignment member
    rwa [target] at allowed
  have shows : memory.Shows name scope := by
    cases scope with
    | nearest => trivial
    | global => exact .inr (shown rfl)
  have found : before.lookup name = some value := by
    have scopes : ∀ assignment ∈ made, assignment.target = name → assignment.scope = scope := by
      rintro assignment member rfl
      obtain ⟨-, statement, stands, assigns⟩ := assigned assignment member
      exact placed statement stands _ assigns
    rw [same.lookup, Memory.lookup_foldl_make shows notConstant scopes, last, Option.some_or]
  constructor
  · intro inside first rest stack between _ executed
    have unchanged := (Machine.executeAll_calls first []).symbols keeps before
    rw [executed] at unchanged
    exact Machine.loads_of_lookup free ((unchanged.lookup name).trans found)
  · intro outcome after stops τ _ next later unshadowed locals globals
    have left := ((stops.symbols keeps).lookup name).trans found
    refine Machine.loads_of_lookup unshadowed ?_
    rw [Memory.lookup, locals, globals]
    exact left

/-- The first assignment goes to the globals, and the second reads what it has left there, but is
refused, for its target is a constant. -/
theorem Block.reads_last_write_title :
    let source := "title = \"b\"\npi = title"
    let block : Block :=
      [⟨1, .perform (.assign .nearest "title" [.push (.text "b")])⟩,
        ⟨2, .perform (.assign .nearest "pi" [.load "title"])⟩]
    let context : Context :=
      { registry := Builtin.registry, constants := SymbolTable.empty.declare "pi" (.text "3") }
    let memory : Memory (Array Event) :=
      ⟨.empty, some (.ofBindings ((∅ : Names Value).insert "title" (.text "a"))), #[], {}⟩
    let before : Memory (Array Event) := memory.assign .global "title" (.text "b")
    let made : List Assignment := [⟨.nearest, "title", .text "b"⟩]
    let failure : Failure := ⟨1, 2, .fault (.constantTarget "pi")⟩
    compile (some context.registry) source = .ok block ∧
      Machine.Makes context block {} 0 memory made ⟨1, none⟩ 1 before ∧
      Machine.Stops context block ⟨1, none⟩ 1 before (.error failure, before) ∧
      Machine.Loads context before "title" (.text "b") ∧
      ∀ next : Context, next.parameters["title"]? = none →
        Machine.Loads next before "title" (.text "b") := by
  intro source block context memory before made failure
  have compiled : compile (some context.registry) source = .ok block :=
    eq_ok_of_toOption (by decide +kernel)
  have carried : Machine.carryOut context {} 0 block[0] memory = (.ok (⟨1, none⟩, 1), before) := by
    rfl
  have failed : Machine.carryOut context ⟨1, none⟩ 1 block[1] before = (.error failure, before) := by
    rfl
  have makes : Machine.Makes context block {} 0 memory made ⟨1, none⟩ 1 before :=
    .turn (by decide) carried (.here _ _ _)
  have stops : Machine.Stops context block ⟨1, none⟩ 1 before (.error failure, before) :=
    .failed (by decide) failed
  have assigned : ∀ statement ∈ block, ∀ other,
      statement.command.assignee? = some (other, "title") → other = .nearest := by
    simp [block, Command.assignee?]
  have reads := Block.reads_last_write Builtin.registry_keepsSymbols rfl assigned nofun makes rfl
  refine ⟨compiled, makes, stops, reads.1 (by decide) [] [] [] before rfl rfl, ?_⟩
  intro next unshadowed
  exact reads.2 _ _ stops (Array Event) next before unshadowed rfl rfl

end EventScript
