import EventScript.CommandLine
import Std.Time.DateTime.Timestamp

/-!
# The program

Reads the arguments, the file or the standard input, and prints what the commands give.
-/

namespace EventScript

def currentChance : IO Chance := do
  let now ← Std.Time.Timestamp.now
  return { seed := ← IO.rand 0 (Chance.modulus - 1), clock := now.toSecondsSinceUnixEpoch.val.toNat }

partial def interactiveLoop (session : Session) : IO Unit := do
  let output ← IO.getStdout
  output.putStr Repl.prompt
  output.flush
  let line ← (← IO.getStdin).getLine
  if line.isEmpty then return
  match Repl.respond session line with
  | (answer, none) => output.putStr answer
  | (answer, some session) =>
    output.putStr answer
    interactiveLoop session

/-- The contents of a file, or the outcome of a command that cannot read it. -/
def readSource (file : String) : IO (Except CommandLine.Outcome String) := do
  try
    return .ok (← IO.FS.readFile file)
  catch error =>
    return .error (CommandLine.failure "read" file error.toString)

end EventScript

open EventScript in
def main (arguments : List String) : IO UInt32 := do
  match (CommandLine.readArguments {} arguments).bind fun read => read.request?.map (read, ·) with
  | none =>
    IO.eprint CommandLine.usage
    return 2
  | some (read, none) =>
    IO.print Repl.banner
    interactiveLoop (.start (CommandLine.engine read.config) (← currentChance))
    return 0
  | some (read, some (task, file)) =>
    let outcome ← match ← readSource file with
      | .ok source => pure (CommandLine.perform task read.config (← currentChance) file source)
      | .error outcome => pure outcome
    IO.print outcome.output
    if let some report := outcome.report then IO.eprint report
    return outcome.exitCode.toUInt32
