import EventScript.Proofs.Machine.Related

/-!
# Runs on a table alone

A script that leaves the globals alone while they hold no names, and calls functions that look at
nothing outside, depends on its table, its parameters and the answers of its sink only.
-/

namespace EventScript

def SymbolTable.IsNameless (table : SymbolTable) : Prop := ∀ name, table.lookup name = none

namespace SymbolTable.IsNameless

variable {table : SymbolTable} (nameless : table.IsNameless)

include nameless

theorem isConstant (name : String) : table.isConstant name = false := by
  have absent := (Option.or_eq_none_iff.mp (nameless name)).1
  rw [SymbolTable.isConstant, Std.ExtTreeMap.contains_eq_isSome_getElem?, absent]
  rfl

theorem contains (name : String) : table.contains name = false := by
  rw [SymbolTable.contains, nameless name]
  rfl

end SymbolTable.IsNameless

/-- Whether a procedure learns of nothing but the locals and what the sink answers. -/
def Procedure.IsPredictable : Procedure → Prop
  | done _ | fail _ => True
  | trigger _ next => ∀ answer, (next answer).IsPredictable
  | read next => ∀ locals, (next locals).IsPredictable
  | assign _ _ next => ∀ taken, (next taken).IsPredictable
  | declare _ _ next | erase _ next | replace _ next => next.IsPredictable
  | draw .. | clock _ => False

variable {σ : Type}

namespace Memory

def HasNoGlobals (memory : Memory σ) : Prop := ∀ globals ∈ memory.globals, globals.IsNameless

theorem HasNoGlobals.lookup {memory : Memory σ} (nameless : memory.HasNoGlobals) (name : String) :
    memory.lookup name = memory.locals.lookup name := by
  have absent : (memory.globals.bind fun globals => globals.lookup name) = none := by
    rw [Option.bind_eq_none_iff]
    exact fun globals there => nameless globals there name
  rw [Memory.lookup, absent, Option.or_none]

theorem HasNoGlobals.any_eq_false {memory : Memory σ} (nameless : memory.HasNoGlobals)
    {holds : SymbolTable → Bool} (empty : ∀ table, table.IsNameless → holds table = false) :
    memory.globals.any holds = false :=
  (Option.any_eq_false ..).mpr fun globals there => empty globals (nameless globals there)

theorem HasNoGlobals.isConstant {memory : Memory σ} (nameless : memory.HasNoGlobals)
    (name : String) : memory.isConstant name = memory.locals.isConstant name := by
  rw [Memory.isConstant, nameless.any_eq_false fun _ empty => empty.isConstant name, Bool.or_false]

theorem HasNoGlobals.assign_nearest {memory : Memory σ} (nameless : memory.HasNoGlobals)
    (target : String) (value : Value) :
    memory.assign .nearest target value =
      { memory with locals := (memory.locals.assign? target value).getD memory.locals } := by
  have stays : memory.writesGlobal target .nearest = false := by
    rw [writesGlobal, nameless.any_eq_false fun _ empty => empty.contains target, Bool.and_false]
  unfold Memory.assign
  rw [stays]
  cases memory.globals with
  | none => rfl
  | some globals => rfl

structure SameAlone (memory other : Memory σ) : Prop where
  locals : memory.locals = other.locals
  sink : memory.sink = other.sink
  nameless : memory.HasNoGlobals
  nameless_other : other.HasNoGlobals

end Memory

variable [EventSink σ]

theorem Procedure.IsPredictable.perform {procedure : Procedure}
    (predictable : procedure.IsPredictable) {memory other : Memory σ}
    (same : memory.SameAlone other) :
    (procedure.perform memory).1 = (procedure.perform other).1 ∧
      (procedure.perform memory).2.SameAlone (procedure.perform other).2 := by
  induction procedure generalizing memory other with
  | done result => exact ⟨rfl, same⟩
  | fail error => exact ⟨rfl, same⟩
  | trigger event next ih =>
    -- The same sink gives the same answer.
    rw [Procedure.perform, Procedure.perform, ← same.sink]
    exact ih _ (predictable _) ⟨same.locals, rfl, same.nameless, same.nameless_other⟩
  | read next ih =>
    rw [Procedure.perform, Procedure.perform, ← same.locals]
    exact ih _ (predictable _) same
  | assign name value next ih =>
    rw [Procedure.perform, Procedure.perform, ← same.locals]
    split
    · exact ih _ (predictable _) ⟨rfl, same.sink, same.nameless, same.nameless_other⟩
    · exact ih _ (predictable _) same
  | declare name value next ih =>
    rw [Procedure.perform, Procedure.perform, ← same.locals]
    exact ih predictable ⟨rfl, same.sink, same.nameless, same.nameless_other⟩
  | erase name next ih =>
    rw [Procedure.perform, Procedure.perform, ← same.locals]
    exact ih predictable ⟨rfl, same.sink, same.nameless, same.nameless_other⟩
  | replace locals next ih =>
    exact ih predictable ⟨rfl, same.sink, same.nameless, same.nameless_other⟩
  | draw bound next ih => cases predictable
  | clock next ih => cases predictable

theorem Memory.sameAlone_indistinguishable :
    Memory.Indistinguishable (Memory.SameAlone (σ := σ)) Procedure.IsPredictable
      (fun scope => scope = .nearest) where
  lookup same name := by
    rw [same.nameless.lookup, same.nameless_other.lookup, same.locals]
  isConstant same name := by
    rw [same.nameless.isConstant, same.nameless_other.isConstant, same.locals]
  perform same _ predictable := predictable.perform same
  assign := by
    rintro memory other same _ rfl target value
    rw [same.nameless.assign_nearest, same.nameless_other.assign_nearest, same.locals]
    exact ⟨rfl, same.sink, same.nameless, same.nameless_other⟩

/-- Whether the block assigns to no global by name, and calls predictable functions only. -/
def Block.IsApart (registry : Registry) (block : Block) : Prop :=
  ∀ statement ∈ block,
    statement.Within registry Procedure.IsPredictable fun scope => scope = .nearest

end EventScript
