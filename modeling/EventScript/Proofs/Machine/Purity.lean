import EventScript.Function.Builtin
import EventScript.Proofs.Machine.Ends
import EventScript.Proofs.Machine.Hidden

/-!
# Pure blocks

A block that assigns nothing and calls only functions without side effects leaves everything as it
was, if the functions are what they are said to be.
-/

namespace EventScript

def Procedure.IsQuiet (σ : Type) [EventSink σ] (procedure : Procedure) : Prop :=
  ∀ memory : Memory σ,
    (procedure.perform memory).2.locals = memory.locals ∧
      (procedure.perform memory).2.sink = memory.sink

/-- Whether the functions said to have no side effects have none on such sinks. -/
def Registry.IsHonest (σ : Type) [EventSink σ] (registry : Registry) : Prop :=
  ∀ name function, registry.get? name = some function → function.hasSideEffects = false →
    ∀ caller arguments, (function.handler caller arguments).IsQuiet σ

variable {σ : Type} [EventSink σ] {registry : Registry}

theorem Procedure.isQuiet_ofExcept (outcome : Except HandlerError (Option Value)) :
    (Procedure.ofExcept outcome).IsQuiet σ := by
  intro memory
  cases outcome with
  | ok value => exact ⟨rfl, rfl⟩
  | error error => exact ⟨rfl, rfl⟩

theorem Registry.mem_of_get?_ofList {functions : List (String × Function)} {name : String}
    {function : Function} (found : (Registry.ofList functions).get? name = some function) :
    (name, function) ∈ functions := by
  have inserted : ∀ (functions : List (String × Function)) (start : Names Function),
      (start.insertMany functions)[name]? = some function →
        (name, function) ∈ functions ∨ start[name]? = some function := by
    intro functions
    induction functions with
    | nil =>
      intro start found
      exact .inr found
    | cons first rest ih =>
      intro start found
      obtain ⟨other, registered⟩ := first
      rw [Std.ExtTreeMap.insertMany_cons] at found
      rcases ih _ found with later | earlier
      · exact .inl (List.mem_cons_of_mem _ later)
      · rw [Std.ExtTreeMap.getElem?_insert] at earlier
        by_cases same : compare other name = .eq
        · rw [if_pos same] at earlier
          obtain rfl := Std.LawfulEqCmp.eq_of_compare same
          obtain rfl := Option.some.inj earlier
          exact .inl List.mem_cons_self
        · rw [if_neg same] at earlier
          exact .inr earlier
  unfold get? ofList at found
  rw [Std.ExtTreeMap.ofList_eq_insertMany_empty] at found
  rcases inserted functions ∅ found with member | none
  · exact member
  · simp at none

/-- The built-in functions are what they are said to be. -/
theorem Builtin.registry_isHonest : Builtin.registry.IsHonest σ := by
  intro name function found quiet caller arguments
  have member := Registry.mem_of_get?_ofList found
  simp only [List.mem_cons, Prod.mk.injEq, List.not_mem_nil, or_false] at member
  rcases member with
    ⟨-, rfl⟩ | ⟨-, rfl⟩ | ⟨-, rfl⟩ | ⟨-, rfl⟩ | ⟨-, rfl⟩ | ⟨-, rfl⟩ | ⟨-, rfl⟩ | ⟨-, rfl⟩
  · exact Procedure.isQuiet_ofExcept _
  · exact Procedure.isQuiet_ofExcept _
  · exact Procedure.isQuiet_ofExcept _
  · exact Procedure.isQuiet_ofExcept _
  · cases quiet
  · cases quiet
  · cases quiet
  · cases quiet

theorem Postfix.calls_of_isPure {code : Postfix} (honest : registry.IsHonest σ)
    (pure : code.isPure registry = true) :
    code.Calls registry fun procedure => procedure.IsQuiet σ := by
  rintro ⟨name, count⟩ called function found caller arguments
  have registered := List.all_eq_true.mp pure (name, count) called
  simp only [found, Option.any_some, Bool.not_eq_true'] at registered
  exact honest name function found registered caller arguments

theorem Block.within_of_isPure {block : Block} (honest : registry.IsHonest σ)
    (pure : block.isPure registry = true) :
    ∀ statement ∈ block,
      statement.Within registry (fun procedure => procedure.IsQuiet σ) fun _ => False := by
  intro statement member
  have here := List.all_eq_true.mp pure statement member
  rw [Bool.and_eq_true] at here
  obtain ⟨assignsNothing, callsQuiet⟩ := here
  constructor
  · intro code evaluated
    rw [Option.mem_def.mp evaluated] at callsQuiet
    exact Postfix.calls_of_isPure honest callsQuiet
  · intro scope target value assigned
    rw [assigned] at assignsNothing
    cases assignsNothing

theorem Machine.Ends.keeps {invariant : Memory σ → Prop} {permits : Procedure → Prop}
    {scopes : Scope → Prop}
    (performs : ∀ memory procedure, permits procedure → invariant memory →
      invariant (procedure.perform memory).2)
    (assigns : ∀ memory scope target value, scopes scope → invariant memory →
      invariant (memory.assign scope target value))
    {context : Context} {block : Block} {execution : Execution} {pc : Nat} {memory : Memory σ}
    {outcome : Except Failure Execution × Memory σ}
    (ends : Machine.Ends context block execution pc memory outcome)
    (within : ∀ statement ∈ block, statement.Within context.registry permits scopes)
    (holds : invariant memory) : invariant outcome.2 := by
  induction ends with
  | outside => exact holds
  | @failed execution pc _ _ _ inside failed =>
    have kept := Machine.carryOut_keeps performs assigns context execution pc
      (within _ (List.getElem_mem inside)) holds
    rwa [failed] at kept
  | @turn execution _ pc _ _ _ _ inside carried _ ih =>
    have kept := Machine.carryOut_keeps performs assigns context execution pc
      (within _ (List.getElem_mem inside)) holds
    rw [carried] at kept
    exact ih kept

structure Memory.Unchanged (before after : Memory σ) : Prop where
  locals : after.locals = before.locals
  globals : after.globals = before.globals
  sink : after.sink = before.sink

theorem Memory.Unchanged.perform {before between : Memory σ} (unchanged : before.Unchanged between)
    {procedure : Procedure} (quiet : procedure.IsQuiet σ) :
    before.Unchanged (procedure.perform between).2 := by
  obtain ⟨locals, sink⟩ := quiet between
  have globals := procedure.perform_globals between
  exact ⟨locals.trans unchanged.locals, globals.trans unchanged.globals, sink.trans unchanged.sink⟩

/-- Wherever the machine ends over a pure block, and so after a run of it, the locals, the globals
and the sink are as before, whether it succeeds or fails. -/
theorem Block.run_of_isPure {context : Context} {block : Block}
    (pure : block.isPure context.registry = true) (honest : context.registry.IsHonest σ)
    (memory : Memory σ) :
    (∀ outcome after, Machine.Ends context block {} 0 memory (outcome, after) →
      memory.Unchanged after) ∧
      memory.Unchanged (block.run context memory).2 := by
  have performs : ∀ (between : Memory σ) (procedure : Procedure), procedure.IsQuiet σ →
      memory.Unchanged between → memory.Unchanged (procedure.perform between).2 :=
    fun _ _ quiet unchanged => unchanged.perform quiet
  have assigns : ∀ (between : Memory σ) (scope : Scope) (target : String) (value : Value), False →
      memory.Unchanged between → memory.Unchanged (between.assign scope target value) :=
    fun _ _ _ _ assigned => assigned.elim
  have within := Block.within_of_isPure honest pure
  constructor
  · intro outcome after ends
    exact ends.keeps performs assigns within ⟨rfl, rfl, rfl⟩
  · rw [Block.run_memory]
    exact Machine.run_keeps performs assigns context block within ⟨rfl, rfl, rfl⟩

theorem Block.run_of_isPure_distance :
    let context : Context := { registry := Builtin.registry }
    let block : Block :=
      [⟨1, .branch [.load "near"] 2⟩,
        ⟨2, .perform (.evaluate [.load "near", .push (.text "far"), .call "distance" 2])⟩]
    let memory : Memory (Array Event) :=
      ⟨SymbolTable.empty.declare "near" (.boolean true), some .empty, #[.named "ping"], {}⟩
    let halt : Halt :=
      .fault (.reported ["argument 1 to `distance` must be a number, got boolean true"])
    ∃ after, Machine.Ends context block {} 0 memory (.error ⟨1, 2, halt⟩, after) ∧
      memory.Unchanged after ∧ memory.Unchanged (block.run context memory).2 := by
  intro context block memory halt
  have pure : block.isPure context.registry = true := by rfl
  have forward : block.Forward 0 2 := by decide
  have ends : Machine.Ends context block {} 0 memory (.error ⟨1, 2, halt⟩, memory) :=
    (Machine.ends_iff_run forward memory _).mpr rfl
  obtain ⟨unchanged, ran⟩ := Block.run_of_isPure pure Builtin.registry_isHonest memory
  exact ⟨memory, ends, unchanged _ _ ends, ran⟩

end EventScript
