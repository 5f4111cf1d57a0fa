import EventScript.Session
import EventScript.Text.Lines

/-!
# The interactive loop

Runs one line after another in a session. `:symbols` lists the symbols and `:quit` ends the loop.
-/

namespace EventScript.Repl

def banner : String :=
  "\n  gamescript: one line per statement, `:symbols` to list variables, `:quit` to leave\n\n"

def prompt : String := ">>"

def eventLine (event : Event) : String := s!"triggered {event.display}\n"

/-- Runs a script. The events are shown after a script that succeeds; those of a script that fails
wait for the next one that does. -/
def evaluate (session : Session) (line : String) : String × Session :=
  match session.run line with
  | (.error error, session) => (s!"Woops! {error.message}\n", session)
  | (.ok value, session) =>
    let (events, session) := session.takeEvents
    let shown := match value with
      | some value => value.display ++ "\n"
      | none => ""
    (shown ++ String.join (events.map eventLine), session)

/-- What a line prints, and the session after it unless the line ends the loop. -/
def respond (session : Session) (line : String) : String × Option Session :=
  let command := String.ofList (Text.trim line.toList)
  if command = ":quit" then ("", none)
  else if command = ":symbols" then (session.symbols.display, some session)
  else
    let (output, session) := evaluate session line
    (output, some session)

def transcript (session : Session) : List String → String
  | [] => prompt
  | line :: rest =>
    match respond session line with
    | (output, none) => prompt ++ output
    | (output, some session) => prompt ++ output ++ transcript session rest

end EventScript.Repl
