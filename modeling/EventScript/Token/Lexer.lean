import EventScript.Number.Decimal
import EventScript.Token

/-!
# Lexical analysis

`Lexer.next` takes one token off the front of a text. Every token is the longest one that starts
where it stands; blanks separate tokens, and `#` starts a comment that runs to the end of the text.
-/

namespace EventScript

inductive LexicalError where
  /-- No token starts with the character. -/
  | unrecognized (char : Char)
  /-- A text is never closed. -/
  | unterminated
  deriving DecidableEq

def LexicalError.message : LexicalError → String
  | unrecognized c => s!"unrecognized character '{c}'"
  | unterminated => "unterminated string literal"

namespace Token

def startsWord (c : Char) : Bool := Text.isAlphabetic c || c == '_'

def continuesWord (c : Char) : Bool :=
  Text.isAlphabetic c || Text.isNumeric c || c == '_' || c == '.'

/-- What a backslash and the character after it stand for inside a text. An escape without a
meaning stands for itself. -/
def unescape : Char → List Char
  | '"' => ['"']
  | '\\' => ['\\']
  | 'n' => ['\n']
  | 't' => ['\t']
  | c => ['\\', c]

/-- The contents of a text whose opening quote has been read, and how many characters there are up
to its closing quote, which is counted too. -/
def readText : List Char → Option (List Char × Nat)
  | [] => none
  | '"' :: _ => some ([], 1)
  | '\\' :: c :: rest => (readText rest).map fun read => (unescape c ++ read.1, read.2 + 2)
  | c :: rest => (readText rest).map fun read => (c :: read.1, read.2 + 1)

def pair? : Char → Char → Option Token
  | '=', '=' => some equal
  | '!', '=' => some notEqual
  | '<', '=' => some lessEq
  | '>', '=' => some greaterEq
  | _, _ => none

def single? : Char → Option Token
  | '=' => some assign
  | '<' => some less
  | '>' => some greater
  | '+' => some plus
  | '-' => some minus
  | '*' => some asterisk
  | '/' => some slash
  | '%' => some percent
  | '^' => some caret
  | ',' => some comma
  | ';' => some semicolon
  | '(' => some openParen
  | ')' => some closeParen
  | '\x7b' => some openBrace
  | '\x7d' => some closeBrace
  | _ => none

def readFixed (c : Char) (rest : List Char) : Option (Token × Nat) :=
  match rest.head?.bind (pair? c) with
  | some token => some (token, 1)
  | none => (single? c).map fun token => (token, 0)

/-- The token at the front of `c :: rest`, and how many of its characters follow `c`. -/
def read (c : Char) (rest : List Char) : Except LexicalError (Token × Nat) :=
  match readFixed c rest with
  | some found => .ok found
  | none =>
    if c = '"' then
      match readText rest with
      | some (contents, width) => .ok (text (String.ofList contents), width)
      | none => .error .unterminated
    else if c.isDigit then
      let (numeral, width) := Number.Numeral.scan (c :: rest)
      .ok (number numeral.value, width - 1)
    else if startsWord c then
      let more := rest.takeWhile continuesWord
      .ok (ofWord (String.ofList (c :: more)), more.length)
    else .error (.unrecognized c)

end Token

structure Lexer where
  rest : List Char
  column : Nat
  deriving DecidableEq

namespace Lexer

def ofText (text : List Char) : Lexer := ⟨text, 1⟩

def advance (lexer : Lexer) (count : Nat) : Lexer :=
  ⟨lexer.rest.drop count, lexer.column + count⟩

def skipBlanks (lexer : Lexer) : Lexer :=
  lexer.advance (lexer.rest.takeWhile Text.isBlank).length

inductive Found where
  | token (lexeme : Lexeme)
  | done
  | error (column : Nat) (cause : LexicalError)
  deriving DecidableEq

/-- The next token, and the lexer after it. A character that starts no token is not passed over; an
unclosed text is read to its end. -/
def next (lexer : Lexer) : Found × Lexer :=
  let start := lexer.skipBlanks
  match start.rest with
  | [] | '#' :: _ => (.done, start.advance start.rest.length)
  | c :: rest =>
    match Token.read c rest with
    | .ok (token, more) => (.token ⟨start.column, token⟩, start.advance (more + 1))
    | .error .unterminated => (.error start.column .unterminated, start.advance start.rest.length)
    | .error cause => (.error start.column cause, start)

theorem length_rest_skipBlanks (lexer : Lexer) :
    lexer.skipBlanks.rest.length ≤ lexer.rest.length := by
  simp [skipBlanks, advance]

theorem next_shortens {lexer after : Lexer} {lexeme : Lexeme}
    (h : lexer.next = (.token lexeme, after)) : after.rest.length < lexer.rest.length := by
  unfold next at h
  dsimp only at h
  split at h
  · exact absurd h (by simp)
  · exact absurd h (by simp)
  · next c rest start =>
    split at h
    · next more _ =>
      obtain ⟨-, rfl⟩ := Prod.mk.inj h
      have shrunk := length_rest_skipBlanks lexer
      rw [start, List.length_cons] at shrunk
      simp only [advance, start, List.length_drop, List.length_cons]
      omega
    · exact absurd h (by simp)
    · exact absurd h (by simp)

def tokens (lexer : Lexer) : Except (Nat × LexicalError) (List Lexeme) :=
  match found : lexer.next with
  | (.token lexeme, after) =>
    have := next_shortens found
    (tokens after).map (lexeme :: ·)
  | (.done, _) => .ok []
  | (.error column cause, _) => .error (column, cause)
termination_by lexer.rest.length

end Lexer

end EventScript
