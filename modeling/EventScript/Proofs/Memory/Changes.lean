import EventScript.Proofs.Memory.Assigned
import Mathlib.Data.List.Induction

/-!
# Changes of a table

What an observed table holds comes from what has been asked of it: its journal lists the assignments
that were not refused, its variables are those that the writes have left, and its constants are the
ones declared last.
-/

namespace EventScript

def latest? {α : Type} (entries : List (String × α)) (name : String) : Option α :=
  entries.reverse.lookup name

theorem latest?_concat {α : Type} (entries : List (String × α)) (name : String) (entry : α)
    (other : String) :
    latest? (entries ++ [(name, entry)]) other =
      if name = other then some entry else latest? entries other := by
  rw [latest?, latest?, List.reverse_append, List.reverse_singleton, List.singleton_append,
    List.lookup_cons]
  by_cases same : name = other
  · rw [if_pos same, same, beq_self_eq_true]
  · rw [if_neg same, beq_false_of_ne (Ne.symm same)]

namespace SymbolTable

inductive Change where
  /-- Refused where the name is a constant. -/
  | assign (name : String) (value : Value)
  | declare (name : String) (value : Value)
  | erase (name : String)
  /-- Another table takes its place. -/
  | replace (other : SymbolTable)

def Change.InPlace : Change → Prop
  | .replace _ => False
  | _ => True

def change (table : SymbolTable) : Change → SymbolTable
  | .assign name value => table.assigned name value
  | .declare name value => table.declare name value
  | .erase name => table.erase name
  | .replace other => other

def changed (table : SymbolTable) (changes : List Change) : SymbolTable :=
  changes.foldl change table

theorem changed_append (table : SymbolTable) (first later : List Change) :
    table.changed (first ++ later) = (table.changed first).changed later :=
  List.foldl_append

theorem map_changed_nil (table : Option SymbolTable) : table.map (·.changed []) = table := by
  cases table with
  | none => rfl
  | some table => rfl

/-! ### Writes -/

/-- One write of a variable: with a value it is an assignment, without one an erasure. -/
abbrev Write : Type := String × Option Value

def write (bindings : Names Value) : Write → Names Value
  | (name, some value) => bindings.insert name value
  | (name, none) => bindings.erase name

def replay (writes : List Write) : Names Value := writes.foldl write ∅

theorem replay_concat (writes : List Write) (last : Write) :
    replay (writes ++ [last]) = write (replay writes) last :=
  List.foldl_append

theorem getElem?_write (bindings : Names Value) (name : String) (value : Option Value)
    (other : String) :
    (write bindings (name, value))[other]? = if name = other then value else bindings[other]? := by
  cases value with
  | some value => simp [write, Std.ExtTreeMap.getElem?_insert]
  | none => simp [write, Std.ExtTreeMap.getElem?_erase]

/-- The last write of a name wins. -/
theorem getElem?_replay (writes : List Write) (name : String) :
    (replay writes)[name]? = (latest? writes name).join := by
  induction writes using List.reverseRecOn with
  | nil => rfl
  | append_singleton writes last ih =>
    obtain ⟨target, value⟩ := last
    rw [replay_concat, getElem?_write, latest?_concat, ih]
    split
    · rfl
    · rfl

/-! ### Ledgers -/

/-- What has come of the changes of a table so far, oldest first. -/
structure Ledger where
  writes : List Write := []
  constants : List (String × Value) := []

namespace Ledger

def assignments (ledger : Ledger) : List (String × Value) :=
  ledger.writes.filterMap fun (name, value) => value.map (name, ·)

def declares (ledger : Ledger) (name : String) : Bool := (latest? ledger.constants name).isSome

/-- An assignment to a constant is not a write. -/
def note (ledger : Ledger) : Change → Ledger
  | .assign name value =>
    if ledger.declares name then ledger
    else { ledger with writes := ledger.writes ++ [(name, some value)] }
  | .declare name value => { ledger with constants := ledger.constants ++ [(name, value)] }
  | .erase name => { ledger with writes := ledger.writes ++ [(name, none)] }
  | .replace _ => ledger

def ofChanges (changes : List Change) : Ledger := changes.foldl note {}

structure Describes (ledger : Ledger) (table : SymbolTable) : Prop where
  journal : table.journal = some ledger.assignments
  bindings : table.bindings = replay ledger.writes
  constants : ∀ name, table.constants[name]? = latest? ledger.constants name

namespace Describes

variable {ledger : Ledger} {table : SymbolTable}

theorem observed : Describes {} observed := ⟨rfl, rfl, fun _ => rfl⟩

theorem isConstant (described : ledger.Describes table) (name : String) :
    table.isConstant name = ledger.declares name := by
  rw [SymbolTable.isConstant, Std.ExtTreeMap.contains_eq_isSome_getElem?, described.constants,
    declares]

theorem lookup (described : ledger.Describes table) (name : String) :
    table.lookup name =
      (latest? ledger.constants name).or (latest? ledger.writes name).join := by
  rw [SymbolTable.lookup, described.constants, described.bindings, getElem?_replay]

theorem change (described : ledger.Describes table) {change : Change} (inPlace : change.InPlace) :
    (ledger.note change).Describes (table.change change) := by
  cases change with
  | assign name value =>
    rw [SymbolTable.change, assigned, assign?, described.isConstant, note]
    split
    · -- Refused: neither the ledger nor the table changes.
      exact described
    · refine ⟨?_, ?_, described.constants⟩
      · simp [described.journal, assignments]
      · rw [replay_concat, ← described.bindings]
        rfl
  | declare name value =>
    refine ⟨described.journal, described.bindings, fun other => ?_⟩
    rw [note, latest?_concat, ← described.constants]
    simp [SymbolTable.change, declare, Std.ExtTreeMap.getElem?_insert]
  | erase name =>
    refine ⟨?_, ?_, described.constants⟩
    · rw [note, assignments, List.filterMap_append]
      exact described.journal.trans (congrArg some (List.append_nil _).symm)
    · rw [note, replay_concat, ← described.bindings]
      rfl
  | replace other => exact inPlace.elim

theorem foldl_note (described : ledger.Describes table) {changes : List Change}
    (inPlace : ∀ change ∈ changes, change.InPlace) :
    (changes.foldl note ledger).Describes (table.changed changes) := by
  induction changes generalizing ledger table with
  | nil => exact described
  | cons change changes ih =>
    exact ih (described.change (inPlace change List.mem_cons_self)) fun later member =>
      inPlace later (List.mem_cons_of_mem change member)

end Describes

theorem ofChanges_describes {changes : List Change}
    (inPlace : ∀ change ∈ changes, change.InPlace) :
    (ofChanges changes).Describes (SymbolTable.observed.changed changes) :=
  Describes.observed.foldl_note inPlace

end Ledger

end SymbolTable

end EventScript
