import EventScript.Proofs.Machine.Changes
import EventScript.Proofs.Machine.Purity

/-!
# Observed tables

The host changes a table under observation, copies it, and lets scripts run on it, as their locals
or as their globals. At every point of such a history the journal and the variables of the table
agree: both are what the assignments that were not refused and the erasures have made.
-/

namespace EventScript.SymbolTable

inductive Operation : Type 1 where
  | assign (name : String) (value : Value)
  | declare (name : String) (value : Value)
  | erase (name : String)
  /-- Goes on with a copy of the table, which stays under observation. -/
  | copy
  /-- Runs a block with the table in that role. All targets lie ahead, as in what a source compiles
  to, so that this is how the machine ends. -/
  | run {σ : Type} [EventSink σ] (role : Role) (context : Context) (block : Block)
    (forward : block.Forward 0 block.length) (memory : Memory σ)

namespace Operation

def perform (table : SymbolTable) : Operation → SymbolTable
  | assign name value => (table.assign? name value).getD table
  | declare name value => table.declare name value
  | erase name => table.erase name
  | copy => table
  | run role context block _ memory =>
    ((block.run context (memory.place table role)).2.table? role).getD table

def changes (table : SymbolTable) : Operation → List Change
  | assign name value => [.assign name value]
  | declare name value => [.declare name value]
  | erase name => [.erase name]
  | copy => []
  | run role context block _ memory => block.changes context role (memory.place table role)

/-- Whether no function that is given the table puts another one in its place. -/
def InPlace : Operation → Prop
  | run .locals context _ _ _ => context.registry.InPlace
  | _ => True

theorem perform_eq (table : SymbolTable) (operation : Operation) :
    operation.perform table = table.changed (operation.changes table) := by
  cases operation with
  | assign name value => rfl
  | declare name value => rfl
  | erase name => rfl
  | copy => rfl
  | run role context block forward memory =>
    rw [perform, changes, block.run_table?, Memory.table?_place]
    rfl

theorem changes_inPlace {operation : Operation} (inPlace : operation.InPlace)
    (table : SymbolTable) : ∀ change ∈ operation.changes table, change.InPlace := by
  cases operation with
  | assign name value => exact List.forall_mem_singleton.mpr trivial
  | declare name value => exact List.forall_mem_singleton.mpr trivial
  | erase name => exact List.forall_mem_singleton.mpr trivial
  | copy => nofun
  | run role context block forward memory =>
    apply block.changes_inPlace
    rintro rfl
    exact inPlace

end Operation

def asked (table : SymbolTable) : List Operation → List Change
  | [] => []
  | operation :: operations =>
    operation.changes table ++ asked (operation.perform table) operations

theorem foldl_perform (table : SymbolTable) (operations : List Operation) :
    operations.foldl Operation.perform table = table.changed (asked table operations) := by
  induction operations generalizing table with
  | nil => rfl
  | cons operation operations ih =>
    rw [List.foldl_cons, ih, asked, changed_append, ← operation.perform_eq]

theorem asked_inPlace {operations : List Operation}
    (inPlace : ∀ operation ∈ operations, operation.InPlace) (table : SymbolTable) :
    ∀ change ∈ asked table operations, change.InPlace := by
  induction operations generalizing table with
  | nil => nofun
  | cons operation operations ih =>
    obtain ⟨first, later⟩ := List.forall_mem_cons.mp inPlace
    exact List.forall_mem_append.mpr ⟨operation.changes_inPlace first table, ih later _⟩

/-- The changes that a history asks of a table that is observed from the beginning make the table
what it is. After each of them the journal lists the assignments that were not refused, in order,
the variables are what these and the erasures leave, and a name reads as the constant that was
declared last, or else as its last write. Assignments are refused for constants only; one that is
refused changes nothing, and to declare a constant changes no variable. -/
theorem observed_history (operations : List Operation)
    (inPlace : ∀ operation ∈ operations, operation.InPlace) :
    operations.foldl Operation.perform observed =
        observed.changed (asked observed operations) ∧
      ∀ changes, changes <+: asked observed operations →
        let table := observed.changed changes
        let ledger := Ledger.ofChanges changes
        table.journal = some ledger.assignments ∧
          table.bindings = replay ledger.writes ∧
          (∀ name, table.lookup name =
            (latest? ledger.constants name).or (latest? ledger.writes name).join) ∧
          ∀ name value,
            (table.assign? name value = none ↔ ledger.declares name = true) ∧
            (ledger.declares name = true → table.change (.assign name value) = table) ∧
            (table.change (.declare name value)).bindings = table.bindings ∧
            (table.change (.declare name value)).journal = table.journal := by
  refine ⟨foldl_perform observed operations, fun changes early => ?_⟩
  have described := Ledger.ofChanges_describes fun change member =>
    asked_inPlace inPlace observed change (early.subset member)
  refine ⟨described.journal, described.bindings, described.lookup, fun name value => ?_⟩
  have refused : (observed.changed changes).assign? name value = none ↔
      (Ledger.ofChanges changes).declares name = true := by
    rw [assign?, described.isConstant]
    split
    · next declared => exact iff_of_true rfl declared
    · next free => exact iff_of_false (Option.some_ne_none _) free
  refine ⟨refused, fun declared => ?_, rfl, rfl⟩
  rw [change, assigned, refused.mpr declared]
  rfl

def store : Function where
  arity := .exactly 2
  handler := fun _ arguments =>
    match arguments with
    | [.text name, value] => .assign name value fun accepted => .done (some (.boolean accepted))
    | _ => .fail (.reported ["expected a name and a value"])

theorem store_inPlace : (Registry.ofList [("store", store)]).InPlace := by
  intro name function found caller arguments
  have member := Registry.mem_of_get?_ofList found
  rw [List.mem_singleton] at member
  cases member
  unfold store
  dsimp only
  split
  · exact fun _ => trivial
  · trivial

/-- The first script assigns from a function and by a statement, and then fails. The second one is
refused where the table is its locals, which hold a constant by then, and assigns the other table;
where the table is its globals, it is the other way round. -/
theorem observed_history_shared :
    let calling : Block :=
      [⟨1, .perform (.evaluate [.push (.text "b"), .push (.text "2"), .call "store" 2])⟩,
        ⟨2, .perform (.assign .nearest "a" [.push (.text "3")])⟩,
        ⟨3, .perform (.evaluate [.call "missing" 0])⟩,
        ⟨4, .perform (.assign .nearest "a" [.push (.text "4")])⟩]
    let sharing : Block :=
      [⟨1, .perform (.evaluate [.push (.text "a"), .push (.text "6"), .call "store" 2])⟩,
        ⟨2, .perform (.assign .global "d" [.push (.text "7")])⟩]
    let context : Context := { registry := .ofList [("store", store)] }
    let memory : Memory (Array Event) := ⟨.empty, some .empty, #[], {}⟩
    let operations : List Operation :=
      [.assign "a" (.text "1"), .run .locals context calling (by decide) memory,
        .declare "a" (.text "k"), .copy, .assign "a" (.text "5"),
        .run .locals context sharing (by decide) memory,
        .run .globals context sharing (by decide) memory, .erase "b"]
    let changes : List Change :=
      [.assign "a" (.text "1"), .assign "b" (.text "2"), .assign "a" (.text "3"),
        .declare "a" (.text "k"), .assign "a" (.text "5"), .assign "a" (.text "6"),
        .assign "d" (.text "7"), .erase "b"]
    let table := operations.foldl Operation.perform observed
    asked observed operations = changes ∧
      table.journal =
        some [("a", .text "1"), ("b", .text "2"), ("a", .text "3"), ("d", .text "7")] ∧
      table.bindings = replay
        [("a", some (.text "1")), ("b", some (.text "2")), ("a", some (.text "3")),
          ("d", some (.text "7")), ("b", none)] ∧
      table.lookup "a" = some (.text "k") ∧
      table.lookup "b" = none := by
  intro calling sharing context memory operations changes table
  have inPlace : ∀ operation ∈ operations, operation.InPlace := by
    simp only [operations, List.forall_mem_cons]
    exact ⟨trivial, store_inPlace, trivial, trivial, trivial, store_inPlace, trivial, trivial,
      nofun⟩
  have made : asked observed operations = changes := by
    rfl
  obtain ⟨reached, described⟩ := observed_history operations inPlace
  rw [made] at reached described
  obtain ⟨journal, bindings, lookup, -⟩ := described changes List.prefix_rfl
  refine ⟨made, ?_⟩
  dsimp only [table]
  rw [reached]
  exact ⟨journal, bindings, lookup "a", lookup "b"⟩

end EventScript.SymbolTable
