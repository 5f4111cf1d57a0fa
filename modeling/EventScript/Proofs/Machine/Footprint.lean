import EventScript.Proofs.Machine.Assignments

/-!
# The footprint of a run

Where no function changes symbols, a run leaves alone all constants, and all variables that its
block does not assign.
-/

namespace EventScript

variable {σ : Type}

/-- Whether one memory has the constants of another one, and the same variables of these names. -/
structure Memory.Spares (spared : String → Prop) (memory after : Memory σ) : Prop where
  localConstants : after.locals.constants = memory.locals.constants
  globalConstants : after.globals.map SymbolTable.constants =
    memory.globals.map SymbolTable.constants
  locals : ∀ name, spared name → after.locals.bindings[name]? = memory.locals.bindings[name]?
  globals : ∀ name, spared name →
    after.globals.map (·.bindings[name]?) = memory.globals.map (·.bindings[name]?)

namespace Memory.Spares

variable {spared : String → Prop} {memory between after : Memory σ}

theorem trans (first : memory.Spares spared between) (second : between.Spares spared after) :
    memory.Spares spared after where
  localConstants := second.localConstants.trans first.localConstants
  globalConstants := second.globalConstants.trans first.globalConstants
  locals name apart := (second.locals name apart).trans (first.locals name apart)
  globals name apart := (second.globals name apart).trans (first.globals name apart)

theorem of_sameSymbols (same : memory.SameSymbols after) : memory.Spares spared after where
  localConstants := congrArg SymbolTable.constants same.locals
  globalConstants := congrArg (Option.map SymbolTable.constants) same.globals
  locals name _ := congrArg (·.bindings[name]?) same.locals
  globals name _ := congrArg (Option.map (·.bindings[name]?)) same.globals

theorem make {assignment : Assignment} (apart : ¬ spared assignment.target) :
    memory.Spares spared (memory.make assignment) := by
  obtain ⟨locals, globals⟩ :=
    memory.assign_constants assignment.scope assignment.target assignment.value
  have others : ∀ name, spared name → assignment.target ≠ name := by
    rintro _ here rfl
    exact apart here
  exact
    { localConstants := locals
      globalConstants := globals
      locals name here := (memory.assign_bindings_other _ (others name here) _).1
      globals name here := (memory.assign_bindings_other _ (others name here) _).2 }

theorem allows_iff (spares : memory.Spares spared after) (context : Context) (name : String) :
    context.Allows after name ↔ context.Allows memory name := by
  rw [Context.Allows, Context.Allows,
    isConstant_congr spares.localConstants spares.globalConstants]

theorem lookup (spares : memory.Spares spared after) {name : String} (apart : spared name) :
    after.lookup name = memory.lookup name := by
  have locals := SymbolTable.lookup_congr spares.localConstants (spares.locals name apart)
  have constants := spares.globalConstants
  have globals := spares.globals name apart
  rw [Memory.lookup, Memory.lookup, locals]
  cases given : memory.globals with
  | none =>
    rw [given, Option.map_none, Option.map_eq_none_iff] at constants
    rw [constants]
  | some table =>
    rw [given, Option.map_some, Option.map_eq_some_iff] at constants
    obtain ⟨other, left, constants⟩ := constants
    rw [given, left] at globals
    rw [left]
    exact congrArg _ (SymbolTable.lookup_congr constants (Option.some.inj globals))

end Memory.Spares

namespace Block

def Assigns (block : Block) (name : String) : Prop :=
  ∃ statement ∈ block, ∃ scope, statement.command.assignee? = some (scope, name)

def LeavesAlone (block : Block) (context : Context) (memory : Memory σ) (name : String) : Prop :=
  ¬ block.Assigns name ∨ ¬ context.Allows memory name

end Block

variable [EventSink σ]

namespace Machine

variable {context : Context}

theorem Reaches.ends {block : Block} {execution reached : Execution} {pc index : Nat}
    {memory before : Memory σ} {outcome : Except Failure Execution × Memory σ}
    (reaches : Reaches context block execution pc memory reached index before)
    (ends : Ends context block execution pc memory outcome) :
    Ends context block reached index before outcome := by
  induction reaches with
  | here => exact ends
  | turn inside carried _ ih =>
    rw [ends_inside_iff inside, carried] at ends
    exact ih ends

section Keeps

variable (keeps : context.registry.KeepsSymbols σ)

include keeps

theorem carryOut_spares (execution : Execution) (index : Nat) {block : Block}
    {statement : Statement} (member : statement ∈ block) {memory before : Memory σ}
    (spares : memory.Spares (block.LeavesAlone context memory) before) :
    memory.Spares (block.LeavesAlone context memory)
      (carryOut context execution index statement before).2 := by
  rcases carryOut_symbols keeps execution index statement before with
    same | ⟨assignment, assigns, allowed, same⟩
  · exact spares.trans (.of_sameSymbols same)
  · have assigned : block.Assigns assignment.target := ⟨statement, member, _, assigns⟩
    have apart : ¬ block.LeavesAlone context memory assignment.target := by
      rintro (unassigned | refused)
      · exact unassigned assigned
      · exact refused ((spares.allows_iff context _).mp allowed)
    exact spares.trans ((Memory.Spares.make apart).trans (.of_sameSymbols same))

variable {block : Block} {execution reached : Execution} {pc index : Nat}
  {memory between before : Memory σ}

theorem Reaches.spares (reaches : Reaches context block execution pc between reached index before)
    (spares : memory.Spares (block.LeavesAlone context memory) between) :
    memory.Spares (block.LeavesAlone context memory) before := by
  induction reaches with
  | here => exact spares
  | @turn execution _ _ pc _ _ _ _ _ inside carried _ ih =>
    have turned := carryOut_spares keeps execution pc (List.getElem_mem inside) spares
    rw [carried] at turned
    exact ih turned

theorem Ends.spares {outcome : Except Failure Execution × Memory σ}
    (ends : Ends context block execution pc between outcome)
    (spares : memory.Spares (block.LeavesAlone context memory) between) :
    memory.Spares (block.LeavesAlone context memory) outcome.2 := by
  induction ends with
  | outside => exact spares
  | @failed execution pc _ _ _ inside failed =>
    have turned := carryOut_spares keeps execution pc (List.getElem_mem inside) spares
    rwa [failed] at turned
  | @turn execution _ pc _ _ _ _ inside carried _ ih =>
    have turned := carryOut_spares keeps execution pc (List.getElem_mem inside) spares
    rw [carried] at turned
    exact ih turned

theorem exists_refusal {statement : Statement} {scope : Scope} {name : String}
    (assigns : statement.command.assignee? = some (scope, name))
    (refused : ¬ context.Allows before name) (execution : Execution) (index : Nat) :
    ∃ failure after,
      carryOut context execution index statement before = (.error failure, after) := by
  rcases carried : carryOut context execution index statement before with
    ⟨failure | ⟨later, next⟩, after⟩
  · exact ⟨failure, after, rfl⟩
  · have symbols := carryOut_symbols_ok keeps carried
    split at symbols
    · next assignment made =>
      have same := assignee?_of_assignment? made
      rw [assigns] at same
      cases same
      exact absurd symbols.1 refused
    · rw [assigns] at symbols
      cases symbols.1

/-- A statement changes the globals by an assignment to them by name, or by a plain one to a name
that only they hold. -/
theorem carryOut_globals (execution : Execution) (index : Nat) (statement : Statement)
    {name : String}
    (changed : (carryOut context execution index statement before).2.globals.map
      (·.bindings[name]?) ≠ before.globals.map (·.bindings[name]?)) :
    statement.command.assignee? = some (.global, name) ∨
      statement.command.assignee? = some (.nearest, name) ∧ before.HasGlobal name ∧
        before.locals.contains name = false := by
  rcases carryOut_symbols keeps execution index statement before with
    same | ⟨⟨scope, target, value⟩, assigns, -, same⟩
  · exact absurd (congrArg (Option.map (·.bindings[name]?)) same.globals) changed
  · rw [same.globals] at changed
    obtain rfl : target = name := Decidable.byContradiction fun different =>
      changed (before.assign_bindings_other scope different value).2
    rcases before.assign_cases scope target value with ⟨globals, -, placed, -⟩ | ⟨-, eq⟩
    · rcases placed with rfl | ⟨held, absent⟩
      · exact .inl assigns
      · cases scope with
        | nearest => exact .inr ⟨assigns, held, absent⟩
        | global => exact .inl assigns
    · rw [Memory.make, eq] at changed
      exact absurd rfl changed

theorem carryOut_locals (execution : Execution) (index : Nat) {statement : Statement}
    {target name : String} (plain : statement.command.assignee? = some (.nearest, target))
    (held : before.HasGlobal name) (absent : before.locals.contains name = false) :
    (carryOut context execution index statement before).2.locals.contains name = false := by
  rcases carryOut_symbols keeps execution index statement before with
    same | ⟨⟨scope, other, value⟩, assigns, -, same⟩
  · rwa [same.locals]
  · rw [plain] at assigns
    cases assigns
    rw [same.locals, Memory.make]
    rcases before.assign_cases .nearest other value with ⟨globals, -, -, eq⟩ | ⟨stays, eq⟩
    · rwa [eq]
    · rw [eq]
      by_cases different : other = name
      · subst different
        rcases stays with none | ⟨-, shared⟩
        · rw [Memory.HasGlobal, none] at held
          cases held
        · rw [shared held] at absent
          cases absent
      · rwa [SymbolTable.contains, before.locals.lookup_assigned_other different]

end Keeps

end Machine

structure Block.Footprint (block : Block) (context : Context) (memory : Memory σ)
    (outcome : Except Failure Execution) (after : Memory σ) : Prop where
  /-- Variables that the block does not assign are unchanged. -/
  locals : ∀ name, ¬ block.Assigns name →
    after.locals.bindings[name]? = memory.locals.bindings[name]?
  globals : ∀ name, ¬ block.Assigns name →
    after.globals.map (·.bindings[name]?) = memory.globals.map (·.bindings[name]?)
  localConstants : after.locals.constants = memory.locals.constants
  globalConstants : after.globals.map SymbolTable.constants =
    memory.globals.map SymbolTable.constants
  /-- The name of a constant, of whatever table, reads as before. -/
  lookup : ∀ name, ¬ context.Allows memory name →
    context.lookup after name = context.lookup memory name
  /-- An assignment to a constant that the machine comes to ends the run with an error. -/
  refusal : ∀ execution index before,
    Machine.Reaches context block {} 0 memory execution index before →
    ∀ (inside : index < block.length) (scope : Scope) (name : String),
      block[index].command.assignee? = some (scope, name) → ¬ context.Allows memory name →
      ∃ failure, outcome = .error failure ∧
        Machine.carryOut context execution index block[index] before = (.error failure, after)
  /-- The globals gain or change a name by an assignment to them, or by a plain one to a name that
  they hold and the locals do not. -/
  globalWrites : ∀ execution index before,
    Machine.Reaches context block {} 0 memory execution index before →
    ∀ (inside : index < block.length) (name : String),
      (Machine.carryOut context execution index block[index] before).2.globals.map
        (·.bindings[name]?) ≠ before.globals.map (·.bindings[name]?) →
      block[index].command.assignee? = some (.global, name) ∨
        block[index].command.assignee? = some (.nearest, name) ∧ before.HasGlobal name ∧
          before.locals.contains name = false
  /-- A plain assignment adds no name to the locals that the globals hold. -/
  localWrites : ∀ execution index before,
    Machine.Reaches context block {} 0 memory execution index before →
    ∀ (inside : index < block.length) (target name : String),
      block[index].command.assignee? = some (.nearest, target) → before.HasGlobal name →
      before.locals.contains name = false →
      (Machine.carryOut context execution index block[index] before).2.locals.contains name = false

/-- Where no function changes symbols, whatever the machine ends with over a block, with or without
an error, it has written nothing but the targets of the block's assignments, and no constant. -/
theorem Block.run_footprint {context : Context} (keeps : context.registry.KeepsSymbols σ)
    {block : Block} {memory after : Memory σ} {outcome : Except Failure Execution}
    (ends : Machine.Ends context block {} 0 memory (outcome, after)) :
    block.Footprint context memory outcome after := by
  -- The constants are the same throughout, so what is refused at first is refused at every statement.
  have start : memory.Spares (block.LeavesAlone context memory) memory :=
    .of_sameSymbols (.refl memory)
  have spares := ends.spares keeps start
  refine
    { locals := fun name unassigned => spares.locals name (.inl unassigned)
      globals := fun name unassigned => spares.globals name (.inl unassigned)
      localConstants := spares.localConstants
      globalConstants := spares.globalConstants
      lookup := ?_, refusal := ?_, globalWrites := ?_, localWrites := ?_ }
  · intro name refused
    rw [Context.lookup, Context.lookup, spares.lookup (.inr refused)]
  · intro execution index before reaches inside scope name assigns refused
    have constant : ¬ context.Allows before name := by
      rwa [(reaches.spares keeps start).allows_iff]
    obtain ⟨failure, last, failed⟩ :=
      Machine.exists_refusal keeps assigns constant execution index
    have stopped := reaches.ends ends
    rw [Machine.ends_inside_iff inside, failed] at stopped
    cases stopped
    exact ⟨failure, rfl, failed⟩
  · intro execution index before _ inside name changed
    exact Machine.carryOut_globals keeps execution index _ changed
  · intro execution index before _ inside target name plain held absent
    exact Machine.carryOut_locals keeps execution index plain held absent

/-- The plain assignment to `title` goes to the globals, that to `hero` to the locals, and the run
ends at the constant. -/
theorem Block.run_footprint_title :
    let source := "title = \"b\"\nhero = title\npi = hero"
    let block : Block :=
      [⟨1, .perform (.assign .nearest "title" [.push (.text "b")])⟩,
        ⟨2, .perform (.assign .nearest "hero" [.load "title"])⟩,
        ⟨3, .perform (.assign .nearest "pi" [.load "hero"])⟩]
    let context : Context :=
      { registry := Builtin.registry, constants := SymbolTable.empty.declare "pi" (.text "3") }
    let memory : Memory (Array Event) :=
      ⟨.empty, some (.ofBindings ((∅ : Names Value).insert "title" (.text "a"))), #[], {}⟩
    let titled := memory.assign .global "title" (.text "b")
    let after := titled.assign .nearest "hero" (.text "b")
    let failure : Failure := ⟨2, 3, .fault (.constantTarget "pi")⟩
    compile (some context.registry) source = .ok block ∧
      Machine.Ends context block {} 0 memory (.error failure, after) ∧
      block.Footprint context memory (.error failure) after := by
  intro source block context memory titled after failure
  have compiled : compile (some context.registry) source = .ok block :=
    eq_ok_of_toOption (by decide +kernel)
  have first : Machine.carryOut context {} 0 block[0] memory = (.ok (⟨1, none⟩, 1), titled) := by
    rfl
  have second : Machine.carryOut context ⟨1, none⟩ 1 block[1] titled =
      (.ok (⟨2, none⟩, 2), after) := by
    rfl
  have third : Machine.carryOut context ⟨2, none⟩ 2 block[2] after = (.error failure, after) := by
    rfl
  have ends : Machine.Ends context block {} 0 memory (.error failure, after) :=
    .turn (by decide) first (.turn (by decide) second (.failed (by decide) third))
  exact ⟨compiled, ends, Block.run_footprint Builtin.registry_keepsSymbols ends⟩

end EventScript
