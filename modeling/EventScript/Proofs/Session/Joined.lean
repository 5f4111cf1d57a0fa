import EventScript.Proofs.Machine.Hidden
import EventScript.Proofs.Program.Joining
import EventScript.Session

/-!
# Joined inputs

To run two sources as one, with a newline between them, is to run one after the other. So a session
ends as if all its inputs had been one.
-/

namespace EventScript

variable {σ : Type} [EventSink σ]

theorem Block.run_eq_ok {block : Block} {context : Context} {memory after : Memory σ}
    {execution : Execution} :
    block.run context memory = (.ok execution, after) ↔
      Machine.run context block memory = (.ok execution, after) := by
  unfold Block.run
  dsimp only [ExceptT.run]
  rcases Machine.run context block memory with ⟨failure | last, left⟩
  · constructor
    · intro h
      cases h
    · intro h
      cases h
  · constructor
    · intro h
      cases h
      rfl
    · intro h
      cases h
      rfl

namespace Engine

theorem run_eq_ok {engine : Engine} {block : Block} {memory after : Memory σ}
    {execution : Execution} :
    engine.run block memory = (.ok execution, after) ↔
      ∃ left, Machine.run (engine.context none ∅) block { memory with globals := none } =
          (.ok execution, left) ∧
        after = { left with globals := memory.globals } := by
  unfold run Block.runLocally
  dsimp only
  rcases ran : block.run (engine.context none ∅) { memory with globals := none } with
    ⟨error | last, left⟩
  · constructor
    · intro h
      cases h
    · rintro ⟨left', ended, rfl⟩
      rw [Block.run_eq_ok.mpr ended] at ran
      cases ran
  · constructor
    · intro h
      cases h
      exact ⟨left, Block.run_eq_ok.mp ran, rfl⟩
    · rintro ⟨left', ended, rfl⟩
      rw [Block.run_eq_ok.mpr ended] at ran
      cases ran
      rfl

/-- Runs on locals alone find no globals, also behind other runs. -/
theorem run_runBoth {engine : Engine} {block other joined : Block} {lines : Nat}
    (runs : ∀ memory : Memory σ, Machine.run (engine.context none ∅) joined memory =
      Machine.runBoth (engine.context none ∅) block other lines memory)
    {memory between after : Memory σ} {execution later : Execution}
    (ran : engine.run block memory = (.ok execution, between))
    (ran' : engine.run other between = (.ok later, after)) :
    ∃ last, engine.run joined memory = (.ok last, after) := by
  obtain ⟨left, first, rfl⟩ := run_eq_ok.mp ran
  obtain ⟨left', second, rfl⟩ := run_eq_ok.mp ran'
  have hidden : ({ memory with globals := none } : Memory σ).globals = none := rfl
  have noGlobals := Machine.run_without_globals (engine.context none ∅) block hidden
  rw [first] at noGlobals
  have same : ({ left with globals := none } : Memory σ) = left := by
    rw [← noGlobals]
  have both := runs { memory with globals := none }
  unfold Machine.runBoth at both
  rw [first] at both
  dsimp only at both second
  rw [same] at second
  rw [second] at both
  exact ⟨_, run_eq_ok.mpr ⟨left', both, rfl⟩⟩

end Engine

namespace Session

def runAll (session : Session) : List String → Option Session
  | [] => some session
  | input :: inputs =>
    match session.run input with
    | (.ok _, after) => after.runAll inputs
    | (.error _, _) => none

theorem run_eq_ok {session after : Session} {input : String} {value : Option Value}
    (ran : session.run input = (.ok value, after)) :
    ∃ block execution memory, session.engine.compile input = .ok block ∧
      session.engine.run block session.memory = (.ok execution, memory) ∧
      after = { session with memory } := by
  unfold run at ran
  cases compiled : session.engine.compile input with
  | error error =>
    rw [compiled] at ran
    cases ran
  | ok block =>
    rw [compiled] at ran
    rcases ended : session.engine.run block session.memory with ⟨error | execution, memory⟩
    · simp only [ended] at ran
      cases ran
    · simp only [ended] at ran
      cases ran
      exact ⟨block, execution, memory, rfl, ended, rfl⟩

theorem run_join {session between after : Session} {first second : String}
    {value value' : Option Value} (ran : session.run first = (.ok value, between))
    (ran' : between.run second = (.ok value', after)) :
    ∃ last, session.run (first ++ "\n" ++ second) = (.ok last, after) := by
  obtain ⟨block, execution, memory, compiled, ends, rfl⟩ := run_eq_ok ran
  obtain ⟨other, later, memory', compiled', ends', rfl⟩ := run_eq_ok ran'
  have joined : session.engine.compile (first ++ "\n" ++ second) = .ok _ :=
    compile_join compiled compiled'
  have forward := compile_forward compiled
  obtain ⟨last, ranBoth⟩ := Engine.run_runBoth
    (fun memory => Machine.run_append_moved _ forward other (lineCount first) memory)
    ends ends'
  refine ⟨last.lastValue, ?_⟩
  unfold run
  rw [joined]
  dsimp only
  rw [ranBoth]
  rfl

theorem runAll_join {session after : Session} {inputs : List String}
    (ran : session.runAll inputs = some after) :
    ∃ value, session.run ("\n".intercalate inputs) = (.ok value, after) := by
  induction inputs generalizing session with
  | nil =>
    cases ran
    exact ⟨none, rfl⟩
  | cons input inputs ih =>
    rw [runAll] at ran
    rcases ended : session.run input with ⟨error | value, between⟩
    · rw [ended] at ran
      cases ran
    · rw [ended] at ran
      cases inputs with
      | nil =>
        cases ran
        exact ⟨value, ended⟩
      | cons next inputs =>
        obtain ⟨last, rest⟩ := ih ran
        rw [String.intercalate_cons_cons]
        exact run_join ended rest

end Session

/-- Two sources with a newline between them compile to the block of the first one and, moved behind
it, that of the second one, and run as these do one after the other. So inputs that all succeed
leave a session as if they had been one. -/
theorem joined_sources_run_in_order :
    (∀ (registry : Option Registry) (first second : String) (block other : Block),
      compile registry first = .ok block → compile registry second = .ok other →
        let lines := first.toList.count '\n' + 1
        let joined := block ++ other.moved block.length lines
        compile registry (first ++ "\n" ++ second) = .ok joined ∧
          ∀ (σ : Type) [EventSink σ] (context : Context) (memory : Memory σ),
            Machine.run context joined memory =
              Machine.runBoth context block other lines memory) ∧
      ∀ (session after : Session) (inputs : List String), session.runAll inputs = some after →
        ∃ value, session.run ("\n".intercalate inputs) = (.ok value, after) := by
  refine ⟨?_, ?_⟩
  · intro registry first second block other compiled compiled'
    refine ⟨compile_join compiled compiled', ?_⟩
    intro σ _ context memory
    exact Machine.run_append_moved context (compile_forward compiled) other _ memory
  · intro session after inputs ran
    exact Session.runAll_join ran

theorem joined_sources_run_in_order_if :
    let session : Session := .start {} {}
    (compile none "if a { b }\n\nc" =
        .ok [⟨1, .branch [.load "a"] 2⟩, ⟨1, .perform (.evaluate [.load "b"])⟩,
          ⟨3, .perform (.evaluate [.load "c"])⟩] ∧
      ∀ (context : Context) (memory : Memory (Array Event)),
        Machine.run context
            [⟨1, .branch [.load "a"] 2⟩, ⟨1, .perform (.evaluate [.load "b"])⟩,
              ⟨3, .perform (.evaluate [.load "c"])⟩] memory =
          Machine.runBoth context
            [⟨1, .branch [.load "a"] 2⟩, ⟨1, .perform (.evaluate [.load "b"])⟩]
            [⟨1, .perform (.evaluate [.load "c"])⟩] 2 memory) ∧
      session.runAll ["x", "y"] = some session ∧
      ∃ value, session.run "x\ny" = (.ok value, session) := by
  intro session
  have first : compile none "if a { b }\n" =
      .ok [⟨1, .branch [.load "a"] 2⟩, ⟨1, .perform (.evaluate [.load "b"])⟩] :=
    eq_ok_of_toOption (by decide +kernel)
  have second : compile none "c" = .ok [⟨1, .perform (.evaluate [.load "c"])⟩] :=
    eq_ok_of_toOption (by decide +kernel)
  obtain ⟨joined, runs⟩ :=
    joined_sources_run_in_order.1 none "if a { b }\n" "c" _ _ first second
  have compiledX : session.engine.compile "x" = .ok [⟨1, .perform (.evaluate [.load "x"])⟩] :=
    eq_ok_of_toOption (by decide +kernel)
  have compiledY : session.engine.compile "y" = .ok [⟨1, .perform (.evaluate [.load "y"])⟩] :=
    eq_ok_of_toOption (by decide +kernel)
  have ranX : session.run "x" = (.ok (some default), session) := by
    unfold Session.run
    rw [compiledX]
    rfl
  have ranY : session.run "y" = (.ok (some default), session) := by
    unfold Session.run
    rw [compiledY]
    rfl
  have inputs : session.runAll ["x", "y"] = some session := by
    rw [Session.runAll, ranX]
    dsimp only
    rw [Session.runAll, ranY]
    rfl
  exact ⟨⟨joined, runs (Array Event)⟩, inputs, joined_sources_run_in_order.2 _ _ _ inputs⟩

end EventScript
