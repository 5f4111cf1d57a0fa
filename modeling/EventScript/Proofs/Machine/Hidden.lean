import EventScript.Proofs.Machine.Related

/-!
# Runs without globals

A script that sees no globals makes none.
-/

namespace EventScript

variable {σ : Type} [EventSink σ]

theorem Procedure.perform_globals (procedure : Procedure) (memory : Memory σ) :
    (procedure.perform memory).2.globals = memory.globals := by
  induction procedure generalizing memory with
  | done result => rfl
  | fail error => rfl
  | trigger event next ih => exact ih _ _
  | read next ih => exact ih _ _
  | assign name value next ih =>
    rw [perform]
    split
    · exact ih _ _
    · exact ih _ _
  | declare name value next ih => exact ih _
  | erase name next ih => exact ih _
  | replace locals next ih => exact ih _
  | draw bound next ih => exact ih _ _
  | clock next ih => exact ih _ _

theorem Machine.run_without_globals (context : Context) (block : Block) {memory : Memory σ}
    (none : memory.globals = none) : (Machine.run context block memory).2.globals = .none := by
  have performs : ∀ (memory : Memory σ) (procedure : Procedure), True → memory.globals = .none →
      (procedure.perform memory).2.globals = .none := by
    intro memory procedure _ none
    exact (procedure.perform_globals memory).trans none
  have assigns : ∀ (memory : Memory σ) (scope : Scope) (target : String) (value : Value), True →
      memory.globals = .none → (memory.assign scope target value).globals = .none := by
    intro memory scope target value _ none
    unfold Memory.assign
    rw [none]
  exact run_keeps performs assigns context block
    (fun statement _ => statement.within_all context.registry) none

end EventScript
