import EventScript.Proofs.Machine.Related

/-!
# Runs on related sinks

A run learns about its sink only what the sink answers. On two sinks that give the same answers it
has the same outcome and leaves the same symbols.
-/

namespace EventScript

variable {σ τ : Type}

inductive Memory.Alike (related : σ → τ → Prop) : Memory σ → Memory τ → Prop where
  | of {locals : SymbolTable} {globals : Option SymbolTable} {chance : Chance} {first : σ}
      {second : τ} (sinks : related first second) :
      Alike related ⟨locals, globals, first, chance⟩ ⟨locals, globals, second, chance⟩

namespace Memory.Alike

variable {related : σ → τ → Prop} {memory : Memory σ} {other : Memory τ}

theorem locals (alike : memory.Alike related other) : memory.locals = other.locals := by
  cases alike
  rfl

theorem globals (alike : memory.Alike related other) : memory.globals = other.globals := by
  cases alike
  rfl

theorem chance (alike : memory.Alike related other) : memory.chance = other.chance := by
  cases alike
  rfl

theorem sinks (alike : memory.Alike related other) : related memory.sink other.sink := by
  cases alike
  assumption

theorem assign (alike : memory.Alike related other) (scope : Scope) (target : String)
    (value : Value) : (memory.assign scope target value).Alike related
      (other.assign scope target value) := by
  obtain ⟨sinks⟩ := alike
  unfold Memory.assign
  dsimp only [Memory.writesGlobal]
  split
  · exact .of sinks
  · exact .of sinks

end Memory.Alike

def EventSink.Answers [EventSink σ] [EventSink τ] (related : σ → τ → Prop) : Prop :=
  ∀ event first second, related first second →
    (trigger event first).1 = (trigger event second).1 ∧
      related (trigger event first).2 (trigger event second).2

variable [EventSink σ] [EventSink τ] {related : σ → τ → Prop}

theorem Procedure.perform_alike (answers : EventSink.Answers related) (procedure : Procedure)
    {memory : Memory σ} {other : Memory τ} (alike : memory.Alike related other) :
    (procedure.perform memory).1 = (procedure.perform other).1 ∧
      (procedure.perform memory).2.Alike related (procedure.perform other).2 := by
  induction procedure generalizing memory other with
  | done result => exact ⟨rfl, alike⟩
  | fail error => exact ⟨rfl, alike⟩
  | trigger event next ih =>
    obtain ⟨sinks⟩ := alike
    obtain ⟨answer, left⟩ := answers event _ _ sinks
    rw [perform, perform]
    dsimp only
    rw [answer]
    exact ih _ (.of left)
  | read next ih =>
    obtain ⟨sinks⟩ := alike
    exact ih _ (.of sinks)
  | assign name value next ih =>
    obtain ⟨sinks⟩ := alike
    rw [perform, perform]
    dsimp only
    split
    · exact ih _ (.of sinks)
    · exact ih _ (.of sinks)
  | declare name value next ih =>
    obtain ⟨sinks⟩ := alike
    exact ih (.of sinks)
  | erase name next ih =>
    obtain ⟨sinks⟩ := alike
    exact ih (.of sinks)
  | replace locals next ih =>
    obtain ⟨sinks⟩ := alike
    exact ih (.of sinks)
  | draw bound next ih =>
    obtain ⟨sinks⟩ := alike
    rw [perform, perform]
    exact ih _ (.of sinks)
  | clock next ih =>
    obtain ⟨sinks⟩ := alike
    exact ih _ (.of sinks)

theorem Memory.alike_indistinguishable (answers : EventSink.Answers related) :
    Memory.Indistinguishable (Memory.Alike related) (fun _ => True) (fun _ => True) where
  lookup alike name := by
    obtain ⟨sinks⟩ := alike
    rfl
  isConstant alike name := by
    obtain ⟨sinks⟩ := alike
    rfl
  perform alike procedure _ := procedure.perform_alike answers alike
  assign alike scope _ target value := alike.assign scope target value

/-- A block runs alike on sinks that answer alike. -/
theorem Block.run_alike (answers : EventSink.Answers related) (block : Block) (context : Context)
    {memory : Memory σ} {other : Memory τ} (alike : memory.Alike related other) :
    (block.run context memory).1 = (block.run context other).1 ∧
      (block.run context memory).2.Alike related (block.run context other).2 :=
  block.run_related (Memory.alike_indistinguishable answers) context
    (fun statement _ => statement.within_all context.registry) alike

end EventScript
