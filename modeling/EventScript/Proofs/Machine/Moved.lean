import EventScript.Proofs.Machine.Ends

/-!
# Blocks one behind the other

A block may be moved behind another one, if its targets move with it. The machine then runs the one
and, if it did not fail, the other on what the first one left.
-/

namespace EventScript

/-! ### Moving -/

def Command.moved (count : Nat) : Command → Command
  | perform step => perform step
  | branch condition target => branch condition (target + count)
  | jump target => jump (target + count)

/-- The statement when it stands behind `count` others, on a line `lines` further down. -/
def Statement.moved (count lines : Nat) (statement : Statement) : Statement :=
  ⟨statement.line + lines, statement.command.moved count⟩

def Block.moved (count lines : Nat) (block : Block) : Block :=
  block.map (Statement.moved count lines)

def Failure.moved (count lines : Nat) (failure : Failure) : Failure :=
  ⟨failure.statement + count, failure.line + lines, failure.halt⟩

def Statement.evaluates (statement : Statement) : Bool :=
  match statement.command with
  | .perform (.evaluate _) => true
  | _ => false

/-- What two executions in a row did. The last value is that of the first one unless an expression
was evaluated in the second. -/
def Execution.followedBy (first second : Execution) (evaluated : Bool) : Execution where
  executed := first.executed + second.executed
  lastValue := if evaluated then second.lastValue else first.lastValue

theorem Execution.followedBy_assoc (first second third : Execution) (before after : Bool) :
    (first.followedBy second before).followedBy third after =
      first.followedBy (second.followedBy third after) (before || after) := by
  unfold followedBy
  congr 1
  · exact Nat.add_assoc _ _ _
  · cases before <;> cases after <;> rfl

namespace Machine

variable {σ : Type} [EventSink σ] (context : Context)

def trail (index resume : Nat) : Block → Memory σ → List Statement
  | [], _ => []
  | statement :: block, memory =>
    if index < resume then trail (index + 1) resume block memory
    else statement ::
      match carryOut context {} index statement memory with
      | (.ok (_, next), memory) => trail (index + 1) next block memory
      | (.error _, _) => []

theorem carryOut_moved (execution : Execution) (index count lines : Nat) (statement : Statement)
    (memory : Memory σ) :
    carryOut context execution (index + count) (statement.moved count lines) memory =
      match carryOut context execution index statement memory with
      | (.ok (later, next), after) => (.ok (later, next + count), after)
      | (.error failure, after) => (.error (failure.moved count lines), after) := by
  obtain ⟨line, command⟩ := statement
  have next : index + count + 1 = index + 1 + count := Nat.add_right_comm _ _ _
  cases command with
  | perform step =>
    unfold carryOut Statement.moved Command.moved located
    dsimp only
    rw [Run.bind_apply, Run.bind_apply, Run.adapt_apply, Run.adapt_apply]
    rcases perform context step execution.lastValue memory with ⟨halt | value, after⟩
    · rfl
    · dsimp only [Except.mapError]
      rw [next]
      rfl
  | branch condition target =>
    unfold carryOut Statement.moved Command.moved located
    dsimp only
    rw [Run.bind_apply, Run.bind_apply, Run.adapt_apply, Run.adapt_apply]
    rcases test context condition memory with ⟨halt | holds, after⟩
    · rfl
    · dsimp only [Except.mapError]
      rw [next]
      cases holds <;> rfl
  | jump target => rfl

theorem runFrom_moved (execution : Execution) (index resume count lines : Nat) (block : Block)
    (memory : Memory σ) :
    runFrom context execution (index + count) (resume + count) (block.moved count lines) memory =
      match runFrom context execution index resume block memory with
      | (.ok later, after) => (.ok later, after)
      | (.error failure, after) => (.error (failure.moved count lines), after) := by
  induction block generalizing execution index resume memory with
  | nil => rfl
  | cons statement block ih =>
    have next : index + count + 1 = index + 1 + count := Nat.add_right_comm _ _ _
    change runFrom _ _ _ _ (statement.moved count lines :: Block.moved count lines block) _ = _
    rw [runFrom, runFrom]
    by_cases early : index < resume
    · rw [if_pos early, if_pos (Nat.add_lt_add_right early count), next]
      exact ih execution (index + 1) resume memory
    · rw [if_neg early, if_neg (by omega), Run.bind_apply, Run.bind_apply, carryOut_moved]
      rcases carryOut context execution index statement memory with
        ⟨failure | ⟨later, target⟩, after⟩
      · rfl
      · dsimp only
        rw [next]
        exact ih later (index + 1) target after

/-- What a statement adds to an execution does not depend on the execution. -/
theorem carryOut_followedBy (execution : Execution) (index : Nat) (statement : Statement)
    (memory : Memory σ) :
    carryOut context execution index statement memory =
      match carryOut context {} index statement memory with
      | (.ok (later, next), after) =>
        (.ok (execution.followedBy later statement.evaluates, next), after)
      | (.error failure, after) => (.error failure, after) := by
  obtain ⟨line, command⟩ := statement
  cases command with
  | perform step =>
    unfold carryOut located
    dsimp only
    rw [Run.bind_apply, Run.bind_apply, Run.adapt_apply, Run.adapt_apply]
    cases step with
    | evaluate code =>
      unfold perform
      dsimp only
      rcases evaluate context code memory with ⟨halt | value, after⟩
      · rfl
      · rfl
    | assign scope target code =>
      unfold perform
      dsimp only
      rw [Run.bind_apply, Run.bind_apply]
      rcases evaluate context code memory with ⟨halt | value, between⟩
      · rfl
      · cases value with
        | none => rfl
        | some value =>
          dsimp only
          rw [Run.bind_apply, Run.bind_apply]
          rcases assign context scope target value between with ⟨halt | _, after⟩
          · rfl
          · rfl
  | branch condition target =>
    unfold carryOut located
    dsimp only
    rw [Run.bind_apply, Run.bind_apply, Run.adapt_apply]
    rcases test context condition memory with ⟨halt | holds, after⟩
    · rfl
    · rfl
  | jump target => rfl

theorem runFrom_followedBy (execution : Execution) (index resume : Nat) (block : Block)
    (memory : Memory σ) :
    runFrom context execution index resume block memory =
      match runFrom context {} index resume block memory with
      | (.ok later, after) =>
        (.ok (execution.followedBy later
          ((trail context index resume block memory).any Statement.evaluates)), after)
      | (.error failure, after) => (.error failure, after) := by
  induction block generalizing execution index resume memory with
  | nil => rfl
  | cons statement block ih =>
    rw [runFrom, runFrom, trail]
    by_cases early : index < resume
    · rw [if_pos early, if_pos early, if_pos early]
      exact ih execution (index + 1) resume memory
    · rw [if_neg early, if_neg early, if_neg early, Run.bind_apply, Run.bind_apply,
        carryOut_followedBy context execution]
      rcases carryOut context {} index statement memory with ⟨failure | ⟨later, next⟩, between⟩
      · rfl
      · dsimp only
        rw [ih (execution.followedBy later statement.evaluates), ih later]
        rcases runFrom context {} (index + 1) next block between with ⟨failure | last, after⟩
        · rfl
        · dsimp only
          rw [Execution.followedBy_assoc]
          rfl

theorem carryOut_executed {execution later : Execution} {index next : Nat} {statement : Statement}
    {memory after : Memory σ}
    (carried : carryOut context execution index statement memory = (.ok (later, next), after)) :
    later.executed = execution.executed + 1 := by
  obtain ⟨line, command⟩ := statement
  cases command with
  | perform step =>
    obtain ⟨last, between, -, same⟩ := Run.bind_ok carried
    cases same
    rfl
  | branch condition target =>
    obtain ⟨holds, between, -, same⟩ := Run.bind_ok carried
    cases same
    rfl
  | jump target =>
    cases carried
    rfl

/-! ### Running -/

theorem runFrom_of_le (execution : Execution) {index resume : Nat} (passed : resume ≤ index)
    (block : Block) :
    runFrom (σ := σ) context execution index resume block =
      runFrom context execution index index block := by
  cases block with
  | nil => rfl
  | cons statement block =>
    rw [runFrom, runFrom, if_neg (Nat.not_lt_of_le passed), if_neg (Nat.lt_irrefl index)]

/-- A block with targets up to its end is left at its end. -/
theorem runFrom_append (execution : Execution) {index resume limit : Nat} {first : Block}
    (forward : first.Forward index limit) (length : index + first.length = limit)
    (within : resume ≤ limit) (second : Block) :
    runFrom (σ := σ) context execution index resume (first ++ second) =
      runFrom context execution index resume first >>= fun execution =>
        runFrom context execution limit limit second := by
  induction first generalizing execution index resume with
  | nil =>
    obtain rfl : index = limit := length
    exact runFrom_of_le context execution within second
  | cons statement first ih =>
    have rest : index + 1 + first.length = limit := by
      rw [← length, List.length_cons]
      omega
    rw [List.cons_append, runFrom, runFrom]
    by_cases early : index < resume
    · rw [if_pos early, if_pos early]
      exact ih execution forward.2 rest within
    · rw [if_neg early, if_neg early, bind_assoc]
      refine Run.bind_congr fun memory carried after carriedOut => ?_
      obtain ⟨later, next⟩ := carried
      refine ih later forward.2 rest ?_
      rcases carryOut_next carriedOut with rfl | target
      · omega
      · exact (forward.1 next target).2

/-- Runs one block and then, if it did not fail, another one, whose statements are counted on from
those of the first one, and whose lines from `lines`. -/
def runBoth (first second : Block) (lines : Nat) (memory : Memory σ) :
    Except Failure Execution × Memory σ :=
  match run context first memory with
  | (.error failure, after) => (.error failure, after)
  | (.ok execution, between) =>
    match run context second between with
    | (.error failure, after) => (.error (failure.moved first.length lines), after)
    | (.ok later, after) =>
      let evaluated := (trail context 0 0 second between).any Statement.evaluates
      (.ok (execution.followedBy later evaluated), after)

theorem run_append_moved {first : Block} (forward : first.Forward 0 first.length)
    (second : Block) (lines : Nat) (memory : Memory σ) :
    run context (first ++ second.moved first.length lines) memory =
      runBoth context first second lines memory := by
  unfold runBoth run
  rw [runFrom_append context {} forward (Nat.zero_add _) (Nat.zero_le _), Run.bind_apply]
  rcases runFrom context {} 0 0 first memory with ⟨failure | execution, between⟩
  · rfl
  · have moved := runFrom_moved context execution 0 0 first.length lines second between
    rw [Nat.zero_add] at moved
    dsimp only
    rw [moved, runFrom_followedBy context execution]
    rcases runFrom context {} 0 0 second between with ⟨failure | later, after⟩
    · rfl
    · rfl

end Machine

end EventScript
