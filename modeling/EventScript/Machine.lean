import EventScript.Block

/-!
# The machine

Runs blocks. Expressions are evaluated on a stack of limited depth; a name that nothing defines
reads as zero, or as the sentinel of the kind of the operand beside it. Control moves forward only,
so one pass over the statements of a block runs it.
-/

namespace EventScript

structure Config where
  stackLimit : Nat := 2048
  /-- How deep events may follow on events that scripts triggered. -/
  maxEventDepth : Nat := 32
  /-- Whether reading an unknown name is an error. -/
  strictSymbols : Bool := false
  deriving DecidableEq

/-- What a running script sees but cannot change. -/
structure Context where
  registry : Registry
  constants : SymbolTable := .empty
  config : Config := {}
  /-- The instance that runs the script. -/
  self : Option InstanceId := none
  parameters : Names Value := ∅

/-- Why a statement ends a run: a fault of its own, or an error that a function passes on. -/
inductive Halt where
  | fault (cause : Fault)
  | raised (error : ScriptError)
  deriving DecidableEq

structure Failure where
  statement : Nat
  line : Nat
  halt : Halt
  deriving DecidableEq

def Failure.toError (failure : Failure) : ScriptError :=
  match failure.halt with
  | .fault cause => .fault failure.statement failure.line cause
  | .raised error => error

/-- What a run did: how many statements it executed, and the value of the last expression among
them, if it had one. -/
structure Execution where
  executed : Nat := 0
  lastValue : Option Value := none
  deriving DecidableEq

/-- A computation that changes memory and may stop with an error; the changes remain. -/
abbrev Run (σ ε α : Type) : Type := ExceptT ε (StateM (Memory σ)) α

/-- A value on the stack, and whether it stands in for a name that nothing defines. -/
structure Slot where
  value : Value
  unset : Bool
  deriving DecidableEq

namespace Memory

def lookup {σ : Type} (memory : Memory σ) (name : String) : Option Value :=
  (memory.locals.lookup name).or (memory.globals.bind fun globals => globals.lookup name)

def isConstant {σ : Type} (memory : Memory σ) (name : String) : Bool :=
  memory.locals.isConstant name || memory.globals.any fun globals => globals.isConstant name

def writesGlobal {σ : Type} (memory : Memory σ) (name : String) : Scope → Bool
  | .global => true
  | .nearest =>
    !memory.locals.contains name && memory.globals.any fun globals => globals.contains name

def assign {σ : Type} (memory : Memory σ) (scope : Scope) (name : String) (value : Value) :
    Memory σ :=
  match memory.globals, memory.writesGlobal name scope with
  | some globals, true => { memory with globals := some ((globals.assign? name value).getD globals) }
  | _, _ => { memory with locals := (memory.locals.assign? name value).getD memory.locals }

end Memory

namespace Context

/-- The value of a name: a parameter, a local, a global or a constant, whichever comes first. -/
def lookup {σ : Type} (context : Context) (memory : Memory σ) (name : String) : Option Value :=
  (context.parameters[name]?.or (memory.lookup name)).or (context.constants.lookup name)

def resolve {σ : Type} (context : Context) (memory : Memory σ) (name : String) :
    Except Halt Slot :=
  match context.lookup memory name with
  | some value => .ok ⟨value, false⟩
  | none =>
    if context.config.strictSymbols then .error (.fault (.unknownIdentifier name))
    else .ok ⟨default, true⟩

def push (context : Context) (slot : Slot) (stack : List Slot) : Except Halt (List Slot) :=
  if stack.length < context.config.stackLimit then .ok (slot :: stack)
  else .error (.fault .stackOverflow)

end Context

namespace Slot

def pop (count : Nat) (stack : List Slot) : Except Halt (List Slot × List Slot) :=
  if count ≤ stack.length then .ok ((stack.take count).reverse, stack.drop count)
  else .error (.fault .stackUnderflow)

/-- The operands in the slots. Of two, one that stands in for an unknown name takes the kind of the
other, unless that one does so too. -/
def operands : List Slot → List Value
  | [left, right] =>
    match left.unset, right.unset with
    | true, false => [right.value.kind.sentinel, right.value]
    | false, true => [left.value, left.value.kind.sentinel]
    | _, _ => [left.value, right.value]
  | slots => slots.map Slot.value

end Slot

namespace Machine

open MonadExcept (ofExcept)

variable {σ : Type} [EventSink σ]

/-- The halt that a failed call causes: errors of the engine pass through. -/
def haltOf : CallError → Halt
  | .wrongArgumentCount name arity count => .fault (.wrongArgumentCount name arity count)
  | .handler (.script error) => .raised error
  | .handler (.reported messages) => .fault (.reported messages)

def call (context : Context) (name : String) (function : Function) (arguments : List Value) :
    Run σ Halt (Option Value) := fun memory =>
  let (result, memory) := function.call name context.self arguments memory
  (result.mapError haltOf, memory)

/-- One instruction on the stack, whose top is in front. -/
def execute (context : Context) (instruction : Instruction) (stack : List Slot) :
    Run σ Halt (List Slot) :=
  match instruction with
  | .push value => ofExcept (context.push ⟨value, false⟩ stack)
  | .load name => do
    ofExcept (context.push (← ofExcept (context.resolve (← get) name)) stack)
  | .operate op => do
    let (slots, rest) ← ofExcept (Slot.pop op.arity stack)
    match op.apply (Slot.operands slots) with
    | .ok value => ofExcept (context.push ⟨value, false⟩ rest)
    | .error cause => throw (.fault (.operator cause))
  | .call name count =>
    match context.registry.get? name with
    | none => throw (.fault (.unknownFunction name))
    | some function => do
      let (slots, rest) ← ofExcept (Slot.pop count stack)
      match ← call context name function (slots.map Slot.value), function.returnsValue with
      | some value, true => ofExcept (context.push ⟨value, false⟩ rest)
      | none, true => throw (.fault (.noValue name))
      | _, false => return rest

def executeAll (context : Context) : Postfix → List Slot → Run σ Halt (List Slot)
  | [], stack => pure stack
  | instruction :: code, stack => do
    executeAll context code (← execute context instruction stack)

def evaluate (context : Context) (code : Postfix) : Run σ Halt (Option Value) := do
  return (← executeAll context code []).head?.map Slot.value

def assign (context : Context) (scope : Scope) (target : String) (value : Value) :
    Run σ Halt Unit := do
  let memory ← get
  if memory.isConstant target || context.constants.isConstant target then
    throw (.fault (.constantTarget target))
  set (memory.assign scope target value)

def test (context : Context) (condition : Postfix) : Run σ Halt Bool := do
  match ← evaluate context condition with
  | none => throw (.fault .noCondition)
  | some value =>
    match value.truth with
    | .ok b => return b
    | .error cause => throw (.fault (.operator cause))

def perform (context : Context) (step : Step) (last : Option Value) :
    Run σ Halt (Option Value) := do
  match step with
  | .evaluate code => evaluate context code
  | .assign scope target code =>
    match ← evaluate context code with
    | none => throw (.fault (.nothingToAssign target))
    | some value =>
      assign context scope target value
      return last

def located {α : Type} (index line : Nat) (action : Run σ Halt α) : Run σ Failure α :=
  ExceptT.adapt (fun halt => ⟨index, line, halt⟩) action

def carryOut (context : Context) (execution : Execution) (index : Nat) (statement : Statement) :
    Run σ Failure (Execution × Nat) := do
  let executed := execution.executed + 1
  match statement.command with
  | .perform step =>
    let lastValue ← located index statement.line (perform context step execution.lastValue)
    return (⟨executed, lastValue⟩, index + 1)
  | .branch condition target =>
    let holds ← located index statement.line (test context condition)
    return (⟨executed, execution.lastValue⟩, if holds then index + 1 else target)
  | .jump target => return (⟨executed, execution.lastValue⟩, target)

/-- Runs the statements of `block`, the first of which has the given index, but passes over those
before index `resume`. -/
def runFrom (context : Context) (execution : Execution) (index resume : Nat) :
    Block → Run σ Failure Execution
  | [] => pure execution
  | statement :: block => do
    if index < resume then runFrom context execution (index + 1) resume block
    else
      let (execution, next) ← carryOut context execution index statement
      runFrom context execution (index + 1) next block

def run (context : Context) (block : Block) : Run σ Failure Execution :=
  runFrom context {} 0 0 block

end Machine

end EventScript
