import EventScript.Proofs.Machine.Safety
import EventScript.Proofs.Program.Statements

/-!
# Checked programs

Blocks that are compiled with a registry run with it without misuse.
-/

namespace EventScript

theorem Postfix.checked_agrees {registry : Registry} {line : Nat} {bare : Bool}
    {tokens : List Lexeme} {code : Postfix}
    (h : Postfix.checked (some registry) line bare tokens = .ok code) :
    code.Agrees registry bare := by
  obtain ⟨converted, found, h⟩ := bind_ok h
  have same : converted = code ∧ code.misuse? registry bare = none := by
    dsimp only [Option.bind_some] at h
    split at h
    · cases h
    · next agrees =>
      cases h
      exact ⟨rfl, agrees⟩
  obtain ⟨rfl, agrees⟩ := same
  obtain ⟨assembled, -, balanced⟩ := bind_ok (mapError_ok found)
  unfold Postfix.balanced at balanced
  split at balanced
  · next effect =>
    cases balanced
    exact ⟨effect, agrees⟩
  · cases balanced
  · cases balanced

theorem emitsOnly_agrees (registry : Registry) :
    EmitsOnly (some registry) fun statement => statement.command.Agrees registry where
  retarget {statement} target agrees := by
    obtain ⟨line, command⟩ := statement
    cases command <;> exact agrees
  jump _ := trivial
  branch {line column keyword header condition} tested := by
    unfold Chunk.condition at tested
    split at tested
    · cases tested
    · exact Postfix.checked_agrees tested
  perform {line tokens step} spelt := by
    unfold Chunk.step at spelt
    split at spelt
    · obtain ⟨code, checked, rfl⟩ := map_ok spelt
      exact Postfix.checked_agrees checked
    · obtain ⟨code, checked, rfl⟩ := map_ok spelt
      exact Postfix.checked_agrees checked
    · cases spelt
    · obtain ⟨code, checked, rfl⟩ := map_ok spelt
      exact Postfix.checked_agrees checked

/-- A block never misuses the stack or the functions of the registry that it was compiled with,
whatever the functions do. -/
theorem compile_run_sound {context : Context} {source : String} {block : Block}
    (compiled : compile (some context.registry) source = .ok block) (σ : Type) [EventSink σ]
    (memory after : Memory σ) (failure : Failure)
    (failed : Machine.run context block memory = (.error failure, after)) :
    failure.halt ≠ .fault .stackUnderflow ∧
      (∀ target, failure.halt ≠ .fault (.nothingToAssign target)) ∧
      failure.halt ≠ .fault .noCondition ∧
      ∀ name arity count, failure.halt ≠ .fault (.wrongArgumentCount name arity count) := by
  have agree := compile_all (emitsOnly_agrees context.registry) compiled
  have sound : Machine.Sound failure.halt :=
    (Machine.runFrom_yields agree {} 0 0).error failed
  refine ⟨?_, fun target => ?_, ?_, fun name arity count => ?_⟩
  all_goals
    intro equal
    rw [equal] at sound
    exact sound trivial

theorem compile_run_sound_unknown :
    let context : Context := { registry := {} }
    let memory : Memory Unit := .ofLocals .empty () {}
    let failure : Failure := ⟨0, 1, .fault (.unknownFunction "f")⟩
    compile (some context.registry) "f(x)" =
        .ok [⟨1, .perform (.evaluate [.load "x", .call "f" 1])⟩] ∧
      Machine.run context [⟨1, .perform (.evaluate [.load "x", .call "f" 1])⟩] memory =
        (.error failure, memory) ∧
      failure.halt ≠ .fault .stackUnderflow ∧
      (∀ target, failure.halt ≠ .fault (.nothingToAssign target)) ∧
      failure.halt ≠ .fault .noCondition ∧
      ∀ name arity count, failure.halt ≠ .fault (.wrongArgumentCount name arity count) := by
  intro context memory failure
  have compiled : compile (some context.registry) "f(x)" =
      .ok [⟨1, .perform (.evaluate [.load "x", .call "f" 1])⟩] :=
    eq_ok_of_toOption (by decide +kernel)
  have failed : Machine.run context [⟨1, .perform (.evaluate [.load "x", .call "f" 1])⟩] memory =
      (.error failure, memory) := by rfl
  exact ⟨compiled, failed, compile_run_sound compiled Unit memory memory failure failed⟩

end EventScript
