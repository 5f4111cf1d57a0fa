import EventScript.Play
import EventScript.Repl

/-!
# The command line

What the commands print on a script, and how the arguments select them.
-/

namespace EventScript.CommandLine

inductive Task where
  | run
  | check
  | play (ticks : Nat)
  deriving DecidableEq, Repr

/-- What a command prints on the standard output, and the report of its failure, if it failed. -/
structure Outcome where
  output : String := ""
  report : Option String := none
  deriving DecidableEq

def Outcome.exitCode (outcome : Outcome) : UInt8 := if outcome.report.isSome then 1 else 0

/-- A report of what could not be done with a file and why; every line of the cause is indented. -/
def failure (action file cause : String) : Outcome :=
  let indented := cause.toList.flatMap fun c => if c = '\n' then "\n    ".toList else [c]
  { report := some s!"Error: failed to {action} {file}\n\nCaused by:\n    {String.ofList indented}\n" }

def engine (config : Config) : Engine := { Engine.standard with config }

/-- Runs a script on fresh symbols; prints its value, its events and the symbols. -/
def run (config : Config) (chance : Chance) (file source : String) : Outcome :=
  match (engine config).compile source with
  | .error error => failure "compile" file error.message
  | .ok block =>
    match (engine config).run block (Memory.ofLocals .empty (#[] : Array Event) chance) with
    | (.error error, _) => failure "run" file error.message
    | (.ok execution, memory) =>
      let shown := match execution.lastValue with
        | some value => value.display ++ "\n"
        | none => ""
      { output := shown ++ String.join (memory.sink.toList.map Repl.eventLine) ++
          memory.locals.display }

/-- Compiles a script; prints its listing and whether it is pure. -/
def check (config : Config) (file source : String) : Outcome :=
  match (engine config).compile source with
  | .error error => failure "compile" file error.message
  | .ok block =>
    { output := block.listing ++ if (engine config).isPure block then "(pure)\n" else "" }

def play (config : Config) (chance : Chance) (file source : String) (ticks : Nat) : Outcome :=
  match Play.run (engine config) chance source ticks with
  | .error error => failure "play" file error.message
  | .ok output => { output }

def perform (task : Task) (config : Config) (chance : Chance) (file source : String) : Outcome :=
  match task with
  | .run => run config chance file source
  | .check => check config file source
  | .play ticks => play config chance file source ticks

def interact (config : Config) (chance : Chance) (input : String) : Outcome :=
  { output := Repl.banner ++ Repl.transcript (.start (engine config) chance)
      ((Text.wholeLines input.toList).map String.ofList) }

/-! ### Arguments -/

structure Arguments where
  config : Config := {}
  ticks : Nat := 10
  /-- The words that are no options: a command and a file, or nothing. -/
  words : List String := []
  deriving DecidableEq

/-- Reads the arguments from the front. Options may stand anywhere. -/
def readArguments (read : Arguments) : List String → Option Arguments
  | [] => some read
  | "--strict" :: rest =>
    readArguments { read with config := { read.config with strictSymbols := true } } rest
  | "--verbose" :: rest | "-v" :: rest => readArguments read rest
  | "--stack-limit" :: value :: rest => do
    let limit ← value.toNat?
    readArguments { read with config := { read.config with stackLimit := limit } } rest
  | "--max-event-depth" :: value :: rest => do
    let depth ← value.toNat?
    readArguments { read with config := { read.config with maxEventDepth := depth } } rest
  | "--ticks" :: value :: rest => do
    let ticks ← value.toNat?
    readArguments { read with ticks } rest
  | word :: rest =>
    if word.startsWith "-" then none
    else readArguments { read with words := read.words ++ [word] } rest

/-- What the arguments ask for: a task on a file, or else the interactive loop. -/
def Arguments.request? (arguments : Arguments) : Option (Option (Task × String)) :=
  match arguments.words with
  | [] => some none
  | ["run", file] => some (some (.run, file))
  | ["check", file] => some (some (.check, file))
  | ["play", file] => some (some (.play arguments.ticks, file))
  | _ => none

def usage : String :=
  "Usage: gamescript [--strict] [--max-event-depth <N>] [--stack-limit <N>] " ++
    "[run <FILE> | check <FILE> | play <FILE> [--ticks <N>]]\n"

end EventScript.CommandLine
