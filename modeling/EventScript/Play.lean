import EventScript.World

/-!
# Play files

A play file holds the scripts of one instance in sections. Each section starts with a header
`@on <event>`. Playing the file fires `create` once and then the step events of a number of ticks.
-/

namespace EventScript.Play

inductive Error where
  /-- A header does not name exactly one event. -/
  | header (line : Nat)
  /-- Code stands before the first header. -/
  | outside (line : Nat)
  | script (error : ScriptError)
  deriving DecidableEq

def Error.message : Error → String
  | header line => s!"line {line}: expected `@on <event>`"
  | outside line => s!"line {line}: code before the first `@on <event>` section"
  | script error => error.message

structure Section where
  event : String
  /-- The script, behind as many empty lines as the file has up to the header, so that the lines of
  the script have the same numbers as in the file. -/
  source : List Char
  deriving DecidableEq

/-- What follows `@on` on a header line; other lines are no headers. -/
def header? (line : List Char) : Option (List Char) :=
  (Text.after? "@on".toList (Text.trim line)).filter fun rest => rest.head?.all Text.isBlank

def isComment (line : List Char) : Bool :=
  (Text.trim line).isEmpty || (Text.trim line).head? == some '#'

def addLine (line : List Char) : List Section → Option (List Section)
  | [] => none
  | latest :: earlier =>
    some ({ latest with source := latest.source ++ line ++ ['\n'] } :: earlier)

def readLine (number : Nat) (sections : List Section) (line : List Char) :
    Except Error (List Section) :=
  match header? line with
  | some rest =>
    let event := Text.trim rest
    if event.isEmpty || event.any Text.isBlank then .error (.header number)
    else .ok (⟨String.ofList event, List.replicate number '\n'⟩ :: sections)
  | none =>
    match addLine line sections with
    | some sections => .ok sections
    | none => if isComment line then .ok [] else .error (.outside number)

def readLines (number : Nat) (sections : List Section) :
    List (List Char) → Except Error (List Section)
  | [] => .ok sections
  | line :: rest => do readLines (number + 1) (← readLine number sections line) rest

def sections (source : String) : Except Error (List Section) :=
  (readLines 1 [] (Text.lines source.toList)).map List.reverse

def stepEvents : List String := ["begin_step", "normal_step", "end_step"]

def subscribe (instanceId : InstanceId) (world : World) (part : Section) :
    Except ScriptError World := do
  world.subscribe part.event instanceId (← world.engine.compile (String.ofList part.source))

/-- The number of failed handlers of a pass, and the world after it. -/
def failuresOf (pass : Except ScriptError Report × World) : Except ScriptError (Nat × World) :=
  pass.1.map fun report => (report.failures.length, pass.2)

def tick (state : Nat × World) (number : Nat) : Except ScriptError (Nat × World) := do
  let events := stepEvents.map fun name =>
    (Event.named name).withParameter "tick" (.number (Float.ofNat number))
  let (failures, world) ← failuresOf (events.foldl World.enqueue state.2).processQueue
  return (state.1 + failures, world)

def summary (instanceId : InstanceId) (failures : Nat) (world : World) : String :=
  let symbols := (world.symbols? instanceId).getD .empty
  let globals :=
    if world.globals.bindings.isEmpty then "" else "globals:\n" ++ world.globals.display
  let failed := if failures = 0 then "" else s!"{failures} handler failure(s), see the log\n"
  s!"instance {instanceId}:\n" ++ symbols.display ++ globals ++ failed

/-- Plays a file for a number of ticks and gives what is printed at the end. -/
def run (engine : Engine) (chance : Chance) (source : String) (ticks : Nat) :
    Except Error String := do
  let parts ← sections source
  let (instanceId, world) := (World.ofEngine engine chance).addInstance .empty
  let played : Except ScriptError (Nat × World) := do
    let world ← parts.foldlM (subscribe instanceId) world
    (List.range ticks).foldlM tick (← failuresOf (world.trigger (.named "create")))
  match played with
  | .ok (failures, world) => .ok (summary instanceId failures world)
  | .error error => .error (.script error)

end EventScript.Play
