import EventScript.Number.Shortest
import EventScript.Text.Quoted

/-!
# Tokens

The words of a script.
-/

namespace EventScript

inductive Token where
  | ident (name : String)
  | number (value : Float)
  | text (value : String)
  | assign
  | plus
  | minus
  | asterisk
  | slash
  | percent
  | caret
  | less
  | lessEq
  | greater
  | greaterEq
  | equal
  | notEqual
  | andKeyword
  | orKeyword
  | notKeyword
  | comma
  | semicolon
  | openParen
  | closeParen
  | openBrace
  | closeBrace
  | trueKeyword
  | falseKeyword
  | ifKeyword
  | elseifKeyword
  | elseKeyword
  | globalKeyword
  deriving DecidableEq

namespace Token

def display : Token → String
  | ident name => name
  | number x => Number.text x
  | text s => Text.quoted s
  | assign => "="
  | plus => "+"
  | minus => "-"
  | asterisk => "*"
  | slash => "/"
  | percent => "%"
  | caret => "^"
  | less => "<"
  | lessEq => "<="
  | greater => ">"
  | greaterEq => ">="
  | equal => "=="
  | notEqual => "!="
  | andKeyword => "and"
  | orKeyword => "or"
  | notKeyword => "not"
  | comma => ","
  | semicolon => ";"
  | openParen => "("
  | closeParen => ")"
  | openBrace => "\x7b"
  | closeBrace => "\x7d"
  | trueKeyword => "true"
  | falseKeyword => "false"
  | ifKeyword => "if"
  | elseifKeyword => "elseif"
  | elseKeyword => "else"
  | globalKeyword => "global"

def keyword? (word : String) : Option Token :=
  [andKeyword, orKeyword, notKeyword, trueKeyword, falseKeyword, ifKeyword, elseifKeyword,
    elseKeyword, globalKeyword].find? fun token => token.display == word

def ofWord (word : String) : Token := (keyword? word).getD (ident word)

def isSeparator : Token → Bool
  | semicolon | openBrace | closeBrace => true
  | _ => false

end Token

/-- A token with the column of its first character, counted from 1. -/
structure Lexeme where
  column : Nat
  token : Token
  deriving DecidableEq

end EventScript
