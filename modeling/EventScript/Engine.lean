import EventScript.Compile
import EventScript.Function.Builtin
import EventScript.Machine

/-!
# Engines

An engine holds what all scripts of a program share: the functions that they can call, constants,
and limits.
-/

namespace EventScript

structure Engine where
  registry : Registry := {}
  constants : SymbolTable := .empty
  config : Config := {}

namespace Engine

def mathConstants : SymbolTable :=
  (SymbolTable.empty.declare "pi" (.number 3.141592653589793)).declare "e"
    (.number 2.718281828459045)

def bare : Engine := { constants := mathConstants }

def standard : Engine := { bare with registry := Builtin.registry }

def register (engine : Engine) (name : String) (function : Function) :
    Except ScriptError Engine := do
  return { engine with registry := ← engine.registry.register name function }

def compile (engine : Engine) (source : String) : Except ScriptError Block :=
  EventScript.compile (some engine.registry) source

def isPure (engine : Engine) (block : Block) : Bool := block.isPure engine.registry

/-- What a script sees that an instance, if any, runs with parameters. -/
def context (engine : Engine) (self : Option InstanceId) (parameters : Names Value) : Context :=
  { registry := engine.registry, constants := engine.constants, config := engine.config, self
    parameters }

end Engine

def Block.run {σ : Type} [EventSink σ] (block : Block) (context : Context) (memory : Memory σ) :
    Except ScriptError Execution × Memory σ :=
  match (Machine.run context block).run memory with
  | (.ok execution, memory) => (.ok execution, memory)
  | (.error failure, memory) => (.error failure.toError, memory)

/-- Runs a block that does not see the globals. -/
def Block.runLocally {σ : Type} [EventSink σ] (block : Block) (context : Context)
    (memory : Memory σ) : Except ScriptError Execution × Memory σ :=
  let (result, after) := block.run context { memory with globals := none }
  (result, { after with globals := memory.globals })

/-- Runs a block on locals alone, without constants and with the usual limits. -/
def Block.execute {σ : Type} [EventSink σ] (block : Block) (registry : Registry)
    (memory : Memory σ) : Except ScriptError Execution × Memory σ :=
  block.runLocally { registry } memory

namespace Engine

def runScoped {σ : Type} [EventSink σ] (engine : Engine) (self : Option InstanceId)
    (parameters : Names Value) (block : Block) (memory : Memory σ) :
    Except ScriptError Execution × Memory σ :=
  block.run (engine.context self parameters) memory

/-- Runs a block on locals alone. -/
def run {σ : Type} [EventSink σ] (engine : Engine) (block : Block) (memory : Memory σ) :
    Except ScriptError Execution × Memory σ :=
  block.runLocally (engine.context none ∅) memory

end Engine

end EventScript
