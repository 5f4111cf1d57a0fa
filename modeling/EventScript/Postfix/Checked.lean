import EventScript.Error
import EventScript.Function
import EventScript.Postfix.OfTokens

/-!
# Checked expressions

An expression in a script becomes code whose calls agree with a registry, if one is given: with the
arities of the functions that it knows, and with which of them give a value. Calls of unknown names
are left alone.
-/

namespace EventScript

structure Misuse where
  name : String
  cause : GrammarError

namespace Postfix

/-- The first call that does not agree with the registry. A function without a value may only be
called last, and only in a `bare` expression, whose value nothing uses. -/
def misuse? (registry : Registry) (bare : Bool) : Postfix → Option Misuse
  | [] => none
  | .call name count :: rest =>
    match registry.get? name with
    | none => misuse? registry bare rest
    | some function =>
      if !function.arity.accepts count then
        some ⟨name, .wrongArgumentCount name function.arity count⟩
      else if !function.returnsValue && !(bare && rest.isEmpty) then
        some ⟨name, .voidResult name⟩
      else misuse? registry bare rest
  | _ :: rest => misuse? registry bare rest

end Postfix

def callColumn? (name : String) : List Lexeme → Option Nat
  | ⟨column, .ident word⟩ :: ⟨next, .openParen⟩ :: rest =>
    if word = name then some column else callColumn? name (⟨next, .openParen⟩ :: rest)
  | _ :: rest => callColumn? name rest
  | [] => none

/-- The column of the first token that calls the name, or else of the first token. -/
def callColumn (name : String) (tokens : List Lexeme) : Nat :=
  ((callColumn? name tokens).or (tokens.head?.map Lexeme.column)).getD 1

def ExpressionError.onLine (line : Nat) : ExpressionError → ScriptError
  | empty => .emptyExpression line
  | «at» column cause => .grammar line column cause

def Postfix.checked (registry : Option Registry) (line : Nat) (bare : Bool) (tokens : List Lexeme) :
    Except ScriptError Postfix := do
  let code ← (Postfix.ofLexemes tokens).mapError (ExpressionError.onLine line)
  match registry.bind fun registry => code.misuse? registry bare with
  | some misuse => .error (.grammar line (callColumn misuse.name tokens) misuse.cause)
  | none => .ok code

end EventScript
