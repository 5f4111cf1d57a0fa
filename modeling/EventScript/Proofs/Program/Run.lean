import EventScript.Function.Builtin
import EventScript.Proofs.Machine.Ends
import EventScript.Proofs.Program.Assembly

/-!
# Runs of programs

What a structured program does, clause by clause, and that its block does the same.
-/

namespace EventScript

structure Stop where
  line : Nat
  halt : Halt
  deriving DecidableEq

def Failure.stop (failure : Failure) : Stop := ⟨failure.line, failure.halt⟩

variable {σ : Type} [EventSink σ]

namespace Program

def onLine {α : Type} (line : Nat) (action : Run σ Halt α) : Run σ Stop α :=
  ExceptT.adapt (fun halt => ⟨line, halt⟩) action

/-- The value on top of the stack when the code of an expression has been executed. -/
def value (context : Context) (code : Postfix) : Run σ Halt (Option Value) := do
  match ← Machine.executeAll context code [] with
  | top :: _ => return top.value
  | [] => return none

/-- Whether the clause with the condition is taken: a boolean says so itself, and of numbers only
zero does not hold. -/
def holds (context : Context) (condition : Postfix) : Run σ Halt Bool := do
  match ← value context condition with
  | some (.boolean b) => return b
  | some (.number x) => return x != 0.0
  | some (.text content) => throw (.fault (.operator (.noTruthValue content)))
  | none => throw (.fault .noCondition)

def act (context : Context) (last : Option Value) : Step → Run σ Halt (Option Value)
  | .evaluate code => value context code
  | .assign scope target code => do
    match ← value context code with
    | some value =>
      Machine.assign context scope target value
      return last
    | none => throw (.fault (.nothingToAssign target))

/-- Runs a program after an expression had the value `last`; the result is the value of the last
expression. -/
def run (context : Context) : Program → Option Value → Run σ Stop (Option Value)
  | empty, last => pure last
  | step before line action, last => do
    let last ← before.run context last
    onLine line (act context last action)
  | when before line condition body, last => do
    let last ← before.run context last
    if ← onLine line (holds context condition) then body.run context last
    else return last
  | choose before line condition body _ alternative, last => do
    let last ← before.run context last
    if ← onLine line (holds context condition) then body.run context last
    else alternative.run context last

theorem evaluate_eq_value (context : Context) (code : Postfix) :
    Machine.evaluate (σ := σ) context code = value context code := by
  refine bind_congr fun stack => ?_
  cases stack with
  | nil => rfl
  | cons top below => rfl

theorem test_eq_holds (context : Context) (condition : Postfix) :
    Machine.test (σ := σ) context condition = holds context condition := by
  unfold Machine.test holds
  rw [evaluate_eq_value]
  refine bind_congr fun result => ?_
  rcases result with _ | (_ | _ | _) <;> rfl

theorem perform_eq_act (context : Context) (last : Option Value) (action : Step) :
    Machine.perform (σ := σ) context action last = act context last action := by
  cases action with
  | evaluate code => exact evaluate_eq_value context code
  | assign scope target code =>
    unfold Machine.perform act
    dsimp only
    rw [evaluate_eq_value]
    refine bind_congr fun result => ?_
    cases result <;> rfl

end Program

namespace Machine

/-! ### Blocks without indices -/

/-- What is left of a run when the indices and the number of its statements are forgotten. -/
def observe (action : Run σ Failure Execution) : Run σ Stop (Option Value) :=
  ExceptT.adapt Failure.stop (Execution.lastValue <$> action)

omit [EventSink σ] in
theorem observe_located {α : Type} (index line : Nat) (action : Run σ Halt α)
    (next : α → Run σ Failure Execution) :
    observe (located index line action >>= next) =
      Program.onLine line action >>= fun value => observe (next value) := by
  unfold observe
  rw [map_bind, Run.adapt_bind]
  congr 1
  funext memory
  unfold located Program.onLine
  rw [Run.adapt_apply, Run.adapt_apply, Run.adapt_apply]
  rcases action memory with ⟨_ | _, _⟩ <;> rfl

theorem runFrom_here (context : Context) (execution : Execution) (index : Nat)
    (statement : Statement) (block : Block) :
    runFrom (σ := σ) context execution index index (statement :: block) =
      carryOut context execution index statement >>= fun (execution, next) =>
        runFrom context execution (index + 1) next block := by
  rw [runFrom, if_neg (Nat.lt_irrefl index)]

theorem observe_executed (context : Context) (executed other : Nat) (last : Option Value)
    (index resume : Nat) (block : Block) :
    observe (σ := σ) (runFrom context ⟨executed, last⟩ index resume block) =
      observe (runFrom context ⟨other, last⟩ index resume block) := by
  induction block generalizing executed other last index resume with
  | nil => rfl
  | cons statement block ih =>
    obtain ⟨line, command⟩ := statement
    unfold runFrom
    split
    · exact ih ..
    · cases command with
      | perform action =>
        simp only [carryOut, bind_assoc, pure_bind]
        rw [observe_located, observe_located]
        congr 1
        funext value
        exact ih ..
      | branch condition target =>
        simp only [carryOut, bind_assoc, pure_bind]
        rw [observe_located, observe_located]
        congr 1
        funext holds
        exact ih ..
      | jump target =>
        simp only [carryOut, pure_bind]
        exact ih ..

def follow (context : Context) (last : Option Value) (index resume : Nat) (block : Block) :
    Run σ Stop (Option Value) :=
  observe (runFrom context ⟨0, last⟩ index resume block)

section Follow

variable (context : Context) (last : Option Value) (line : Nat) (block : Block)

theorem follow_skip {index resume : Nat} (statement : Statement) (early : index < resume) :
    follow (σ := σ) context last index resume (statement :: block) =
      follow context last (index + 1) resume block := by
  unfold follow
  rw [runFrom, if_pos early]

theorem follow_perform (index : Nat) (action : Step) :
    follow (σ := σ) context last index index (⟨line, .perform action⟩ :: block) =
      Program.onLine line (Program.act context last action) >>= fun last =>
        follow context last (index + 1) (index + 1) block := by
  rw [← Program.perform_eq_act]
  unfold follow
  rw [runFrom_here]
  simp only [carryOut, bind_assoc, pure_bind]
  rw [observe_located]
  congr 1
  funext value
  exact observe_executed ..

theorem follow_branch (index : Nat) (condition : Postfix) (target : Nat) :
    follow (σ := σ) context last index index (⟨line, .branch condition target⟩ :: block) =
      Program.onLine line (Program.holds context condition) >>= fun holds =>
        if holds then follow context last (index + 1) (index + 1) block
        else follow context last (index + 1) target block := by
  rw [← Program.test_eq_holds]
  unfold follow
  rw [runFrom_here]
  simp only [carryOut, bind_assoc, pure_bind]
  rw [observe_located]
  congr 1
  funext holds
  cases holds <;> exact observe_executed ..

theorem follow_jump (index target : Nat) :
    follow (σ := σ) context last index index (⟨line, .jump target⟩ :: block) =
      follow context last (index + 1) target block := by
  unfold follow
  rw [runFrom_here]
  simp only [carryOut, pure_bind]
  exact observe_executed ..

theorem follow_pass {index resume : Nat} (passed rest : Block)
    (early : index + passed.length ≤ resume) :
    follow (σ := σ) context last index resume (passed ++ rest) =
      follow context last (index + passed.length) resume rest := by
  induction passed generalizing index with
  | nil => rfl
  | cons statement passed ih =>
    rw [List.length_cons] at early
    rw [List.cons_append, follow_skip context last _ statement (by omega), ih (by omega),
      List.length_cons, Nat.add_right_comm, Nat.add_assoc]

end Follow

/-- Following the block of a program, with any statements behind it, runs the program. -/
theorem follow_flatten (context : Context) (program : Program) (last : Option Value) (start : Nat)
    (rest : Block) :
    follow (σ := σ) context last start start (program.flatten start ++ rest) =
      program.run context last >>= fun last =>
        follow context last (start + program.size) (start + program.size) rest := by
  induction program generalizing last start rest with
  | empty => rw [Program.run, pure_bind]; rfl
  | step before line action ih =>
    rw [Program.flatten, List.append_assoc, ih, Program.run, bind_assoc]
    congr 1
    funext last
    exact follow_perform ..
  | when before line condition body ihBefore ihBody =>
    have finish : start + (Program.when before line condition body).size =
        start + before.size + 1 + body.size := by
      simp only [Program.size]
      omega
    rw [Program.flatten, List.append_assoc, ihBefore, Program.run, bind_assoc, finish]
    congr 1
    funext last
    rw [List.cons_append, follow_branch, bind_assoc]
    congr 1
    funext holds
    cases holds with
    | true => exact ihBody ..
    | false =>
      rw [if_neg Bool.false_ne_true, if_neg Bool.false_ne_true, pure_bind,
        follow_pass _ _ _ _ (by simp), Program.length_flatten]
  | choose before line condition body elseLine alternative ihBefore ihBody ihAlternative =>
    have finish : start +
        (Program.choose before line condition body elseLine alternative).size =
          start + before.size + 1 + body.size + 1 + alternative.size := by
      simp only [Program.size]
      omega
    rw [Program.flatten, List.append_assoc, List.append_assoc, ihBefore, Program.run, bind_assoc,
      finish]
    congr 1
    funext last
    rw [List.cons_append, follow_branch, bind_assoc]
    congr 1
    funext holds
    rw [List.cons_append]
    cases holds with
    | true =>
      rw [if_pos rfl, if_pos rfl, ihBody]
      congr 1
      funext last
      -- The jump behind the body passes over the alternative.
      rw [follow_jump, follow_pass _ _ _ _ (by simp), Program.length_flatten]
    | false =>
      rw [if_neg Bool.false_ne_true, if_neg Bool.false_ne_true, follow_pass _ _ _ _ (by simp),
        Program.length_flatten, follow_skip _ _ _ _ (Nat.lt_succ_self _), ihAlternative]

theorem observe_run_toBlock (context : Context) (program : Program) :
    observe (σ := σ) (run context program.toBlock) = program.run context none := by
  have followed := follow_flatten (σ := σ) context program none 0 []
  rw [List.append_nil] at followed
  change follow context none 0 0 program.toBlock = _
  rw [Program.toBlock, followed]
  exact bind_pure _

end Machine

/-- Over a compiled block the machine ends, and does what the program does that the source
spells. -/
theorem compile_run {registry : Option Registry} {source : String} {block : Block}
    (compiled : compile registry source = .ok block) :
    ∃ program, Program.ofSource registry source = .ok program ∧
      ∀ (σ : Type) [EventSink σ] (context : Context) (memory : Memory σ),
        (∀ outcome, Machine.Ends context block {} 0 memory outcome ↔
          outcome = Machine.run context block memory) ∧
          Machine.observe (Machine.run context block) memory =
            program.run context none memory := by
  rw [compile_eq] at compiled
  obtain ⟨program, spelt, rfl⟩ := map_ok compiled
  have forward := program.forward_flatten 0 (Nat.le_refl _)
  refine ⟨program, spelt, fun σ _ context memory => ⟨Machine.ends_iff_run forward memory, ?_⟩⟩
  rw [Machine.observe_run_toBlock]

/-- Of three clauses the second is taken, and the run goes on behind them. -/
theorem compile_run_elseif :
    let source :=
      "if far { x = far } elseif near { global x = near; trigger_event(bell) } else { y = near }
      y = x
      y"
    let block : Block :=
      [⟨1, .branch [.load "far"] 3⟩, ⟨1, .perform (.assign .nearest "x" [.load "far"])⟩,
        ⟨1, .jump 8⟩, ⟨1, .branch [.load "near"] 7⟩,
        ⟨1, .perform (.assign .global "x" [.load "near"])⟩,
        ⟨1, .perform (.evaluate [.load "bell", .call "trigger_event" 1])⟩, ⟨1, .jump 8⟩,
        ⟨1, .perform (.assign .nearest "y" [.load "near"])⟩,
        ⟨2, .perform (.assign .nearest "y" [.load "x"])⟩, ⟨3, .perform (.evaluate [.load "y"])⟩]
    let context : Context := { registry := Builtin.registry }
    let locals : Names Value := .ofList
      [("far", Value.boolean false), ("near", .boolean true), ("bell", .text "rung")]
    let memory : Memory (Array Event) := ⟨.ofBindings locals, some .empty, #[], {}⟩
    compile none source = .ok block ∧
      ∃ program, Program.ofSource none source = .ok program ∧
        (∀ outcome, Machine.Ends context block {} 0 memory outcome ↔
          outcome = Machine.run context block memory) ∧
        Machine.observe (Machine.run context block) memory = program.run context none memory ∧
        program.run context none memory =
          (.ok (some (.boolean true)),
            ⟨.ofBindings (locals.insert "y" (.boolean true)),
              some (.ofBindings (.ofList [("x", Value.boolean true)])), #[.named "rung"], {}⟩) := by
  intro source block context locals memory
  have compiled : compile none source = .ok block := eq_ok_of_toOption (by decide +kernel)
  obtain ⟨program, spelt, ran⟩ := compile_run compiled
  obtain ⟨ends, same⟩ := ran (Array Event) context memory
  refine ⟨compiled, program, spelt, ends, same, ?_⟩
  rw [← same]
  rfl

end EventScript
