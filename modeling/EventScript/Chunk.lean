import EventScript.Block
import EventScript.Postfix.Checked
import EventScript.Text.Lines

/-!
# Chunks

A script is read in chunks, which separators and line ends cut out of it. A chunk is a statement or
the header of a clause.
-/

namespace EventScript

/-- A run of tokens on one line, and the separator that ended it, if it was not the line's end. -/
structure Chunk where
  tokens : List Lexeme
  terminator : Option Lexeme

namespace Chunk

/-- The chunks of a line whose first chunk already holds `begun`, given backwards. -/
def splitAfter (begun : List Lexeme) : List Lexeme → List Chunk
  | [] => if begun.isEmpty then [] else [⟨begun.reverse, none⟩]
  | lexeme :: rest =>
    if lexeme.token.isSeparator then ⟨begun.reverse, some lexeme⟩ :: splitAfter [] rest
    else splitAfter (lexeme :: begun) rest

def split (tokens : List Lexeme) : List Chunk := splitAfter [] tokens

def endsIn (chunk : Chunk) (separator : Token) : Bool :=
  chunk.terminator.any fun lexeme => lexeme.token == separator

/-! ### Lines -/

variable {α : Type}

def foldLine (read : Nat → α → Chunk → Except ScriptError α) (state : α) (line : Nat)
    (text : List Char) : Except ScriptError α := do
  let tokens ← (Lexer.ofText text).tokens.mapError fun (column, cause) =>
    .lexical line column cause
  (split tokens).foldlM (read line) state

def foldLines (read : Nat → α → Chunk → Except ScriptError α) (state : α) (line : Nat) :
    List (List Char) → Except ScriptError α
  | [] => .ok state
  | text :: rest => do foldLines read (← foldLine read state line text) (line + 1) rest

/-! ### Headers and statements -/

/-- What a chunk is, by its first token. The column is that of the keyword. -/
inductive Form where
  | blank
  | opening (column : Nat) (header : List Lexeme)
  | alternative (column : Nat) (header : List Lexeme)
  | otherwise (column : Nat) (header : List Lexeme)
  | statement (tokens : List Lexeme)

def form (chunk : Chunk) : Form :=
  match chunk.tokens with
  | [] => .blank
  | ⟨column, .ifKeyword⟩ :: header => .opening column header
  | ⟨column, .elseifKeyword⟩ :: header => .alternative column header
  | ⟨column, .elseKeyword⟩ :: header => .otherwise column header
  | tokens => .statement tokens

def requireBrace (line column : Nat) (keyword : Token) (chunk : Chunk) : Except ScriptError Unit :=
  if chunk.endsIn .openBrace then .ok ()
  else .error (.grammar line column (.missingBrace keyword))

def condition (registry : Option Registry) (line column : Nat) (keyword : Token)
    (header : List Lexeme) : Except ScriptError Postfix :=
  if header.isEmpty then .error (.grammar line column (.missingCondition keyword))
  else Postfix.checked registry line false header

def requireNothing (line : Nat) : List Lexeme → Except ScriptError Unit
  | ⟨column, token⟩ :: _ => .error (.grammar line column (.afterElse token))
  | [] => .ok ()

def step (registry : Option Registry) (line : Nat) (tokens : List Lexeme) :
    Except ScriptError Step :=
  match tokens with
  | ⟨_, .ident target⟩ :: ⟨_, .assign⟩ :: value =>
    (Postfix.checked registry line false value).map (.assign .nearest target)
  | ⟨_, .globalKeyword⟩ :: ⟨_, .ident target⟩ :: ⟨_, .assign⟩ :: value =>
    (Postfix.checked registry line false value).map (.assign .global target)
  | ⟨column, .globalKeyword⟩ :: _ => .error (.grammar line column .globalWithoutAssignment)
  | tokens => (Postfix.checked registry line true tokens).map .evaluate

end Chunk

end EventScript
