import EventScript.Machine

/-!
# Assigned names

An assignment writes one variable in one table. That name then reads as the new value, unless a
table in front hides it, and every other name reads as before.
-/

namespace EventScript

namespace SymbolTable

def assigned (table : SymbolTable) (name : String) (value : Value) : SymbolTable :=
  (table.assign? name value).getD table

@[simp] theorem constants_assigned (table : SymbolTable) (name : String) (value : Value) :
    (table.assigned name value).constants = table.constants := by
  unfold assigned assign?
  split
  · rfl
  · rfl

theorem bindings_assigned_other (table : SymbolTable) {name other : String} (different : name ≠ other)
    (value : Value) : (table.assigned name value).bindings[other]? = table.bindings[other]? := by
  unfold assigned assign?
  split
  · rfl
  · simp [Std.ExtTreeMap.getElem?_insert, different]

theorem lookup_congr {table other : SymbolTable} {name : String}
    (constants : other.constants = table.constants)
    (bindings : other.bindings[name]? = table.bindings[name]?) :
    other.lookup name = table.lookup name := by
  rw [lookup, lookup, constants, bindings]

theorem lookup_assigned_other (table : SymbolTable) {name other : String} (different : name ≠ other)
    (value : Value) : (table.assigned name value).lookup other = table.lookup other :=
  lookup_congr (table.constants_assigned name value) (table.bindings_assigned_other different value)

theorem lookup_assigned_self {table : SymbolTable} {name : String}
    (free : table.isConstant name = false) (value : Value) :
    (table.assigned name value).lookup name = some value := by
  have absent : table.constants[name]? = none := by
    rwa [isConstant, Std.ExtTreeMap.contains_eq_isSome_getElem?, Option.isSome_eq_false_iff,
      Option.isNone_iff_eq_none] at free
  rw [assigned, assign?, free]
  simp [lookup, absent]

end SymbolTable

namespace Memory

variable {σ : Type}

def HasGlobal (memory : Memory σ) (name : String) : Prop :=
  (memory.globals.any fun globals => globals.contains name) = true

/-- An assignment goes to the globals or to the locals. -/
theorem assign_cases (memory : Memory σ) (scope : Scope) (target : String) (value : Value) :
    (∃ globals, memory.globals = some globals ∧
      (scope = .global ∨ memory.HasGlobal target ∧ memory.locals.contains target = false) ∧
      memory.assign scope target value =
        { memory with globals := some (globals.assigned target value) }) ∨
    (memory.globals = none ∨
      scope = .nearest ∧ (memory.HasGlobal target → memory.locals.contains target = true)) ∧
    memory.assign scope target value =
      { memory with locals := memory.locals.assigned target value } := by
  unfold assign HasGlobal
  cases given : memory.globals with
  | none => exact .inr ⟨.inl rfl, rfl⟩
  | some globals =>
    cases scope with
    | global => exact .inl ⟨globals, rfl, .inl rfl, rfl⟩
    | nearest =>
      cases held : memory.locals.contains target with
      | true =>
        have stays : memory.writesGlobal target .nearest = false := by
          rw [writesGlobal, held]
          rfl
        rw [stays]
        exact .inr ⟨.inr ⟨rfl, fun _ => rfl⟩, rfl⟩
      | false =>
        have goes : memory.writesGlobal target .nearest = globals.contains target := by
          rw [writesGlobal, held, given]
          rfl
        rw [goes]
        cases known : globals.contains target with
        | true => exact .inl ⟨globals, rfl, .inr ⟨known, rfl⟩, rfl⟩
        | false => exact .inr ⟨.inr ⟨rfl, fun there => by simp [known] at there⟩, rfl⟩

theorem assign_constants (memory : Memory σ) (scope : Scope) (target : String) (value : Value) :
    (memory.assign scope target value).locals.constants = memory.locals.constants ∧
      (memory.assign scope target value).globals.map SymbolTable.constants =
        memory.globals.map SymbolTable.constants := by
  rcases memory.assign_cases scope target value with ⟨globals, given, -, eq⟩ | ⟨-, eq⟩
  · rw [eq, given]
    exact ⟨rfl, congrArg some (globals.constants_assigned target value)⟩
  · rw [eq]
    exact ⟨memory.locals.constants_assigned target value, rfl⟩

theorem isConstant_congr {memory after : Memory σ}
    (locals : after.locals.constants = memory.locals.constants)
    (globals : after.globals.map SymbolTable.constants = memory.globals.map SymbolTable.constants)
    (name : String) : after.isConstant name = memory.isConstant name := by
  have declared : (after.globals.map SymbolTable.constants).any (·.contains name) =
      (memory.globals.map SymbolTable.constants).any (·.contains name) := by
    rw [globals]
  rw [Option.any_map, Option.any_map] at declared
  rw [isConstant, isConstant, SymbolTable.isConstant, SymbolTable.isConstant, locals]
  exact congrArg _ declared

theorem isConstant_assign (memory : Memory σ) (scope : Scope) (target : String) (value : Value)
    (name : String) :
    (memory.assign scope target value).isConstant name = memory.isConstant name :=
  isConstant_congr (memory.assign_constants scope target value).1
    (memory.assign_constants scope target value).2 name

theorem assign_bindings_other (memory : Memory σ) (scope : Scope) {target name : String}
    (different : target ≠ name) (value : Value) :
    (memory.assign scope target value).locals.bindings[name]? = memory.locals.bindings[name]? ∧
      (memory.assign scope target value).globals.map (·.bindings[name]?) =
        memory.globals.map (·.bindings[name]?) := by
  rcases memory.assign_cases scope target value with ⟨globals, given, -, eq⟩ | ⟨-, eq⟩
  · rw [eq, given]
    exact ⟨rfl, congrArg some (globals.bindings_assigned_other different value)⟩
  · rw [eq]
    exact ⟨memory.locals.bindings_assigned_other different value, rfl⟩

theorem lookup_assign_other (memory : Memory σ) (scope : Scope) {target name : String}
    (different : target ≠ name) (value : Value) :
    (memory.assign scope target value).lookup name = memory.lookup name := by
  rcases memory.assign_cases scope target value with ⟨globals, given, -, eq⟩ | ⟨-, eq⟩
  · rw [eq, lookup, lookup, given]
    exact congrArg _ (globals.lookup_assigned_other different value)
  · rw [eq, lookup, lookup, memory.locals.lookup_assigned_other different value]

end Memory

end EventScript
