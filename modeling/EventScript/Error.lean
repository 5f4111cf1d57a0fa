import EventScript.Error.Fault
import EventScript.Error.Grammar
import EventScript.Event
import EventScript.Token.Lexer

/-!
# Script errors

Everything that can go wrong from the source of a script to the delivery of its events.
-/

namespace EventScript

inductive ScriptError where
  | lexical (line column : Nat) (cause : LexicalError)
  | grammar (line column : Nat) (cause : GrammarError)
  | emptyExpression (line : Nat)
  | fault (statement line : Nat) (cause : Fault)
  | duplicateFunction (name : String)
  /-- An event was triggered deeper below a host event than the limit allows. -/
  | recursion (event : String) (limit : Nat)
  | unknownInstance (instanceId : InstanceId)
  | duplicateBlock (name : String)
  | unknownBlock (name : String)
  deriving DecidableEq

namespace ScriptError

/-- Whether the error was found before anything ran. -/
def isCompileError : ScriptError → Bool
  | lexical .. | grammar .. | emptyExpression _ => true
  | _ => false

def isRecursion : ScriptError → Bool
  | recursion .. => true
  | _ => false

def message : ScriptError → String
  | lexical line column cause => s!"lex error at line {line}, column {column}: {cause.message}"
  | grammar line column cause => s!"syntax error at line {line}, column {column}: {cause.message}"
  | emptyExpression line => s!"empty expression at line {line}"
  | fault statement line cause =>
    let what := if cause.isMismatch then "type mismatch" else "runtime error"
    s!"{what} in statement {statement} (line {line}): {cause.message}"
  | duplicateFunction name => "function `" ++ name ++ "` is already registered"
  | recursion event limit =>
    "event `" ++ event ++ s!"` exceeded the recursion depth limit of {limit}"
  | unknownInstance instanceId => s!"unknown instance {instanceId}"
  | duplicateBlock name => "code block `" ++ name ++ "` is already registered"
  | unknownBlock name => "unknown code block `" ++ name ++ "`"

end ScriptError

end EventScript
