import EventScript.Chunk
import EventScript.Proofs.Program.Tree

/-!
# Outlines

The structured program that a source spells. An outline is what the chunks so far spell: the open
clauses, and the program of the innermost open block. The chain of a clause that was just closed
stays open to an `elseif` or `else`.
-/

namespace EventScript

/-- A chain of clauses without its last one. It starts behind a program, at the place of an `if`;
a clause that another one follows ends with the line of that one's keyword. -/
inductive Chain where
  | first (before : Program) (line column : Nat)
  | after (chain : Chain) (line : Nat) (condition : Postfix) (body : Program) (elseLine : Nat)

namespace Chain

def before : Chain → Program
  | first program _ _ => program
  | after .. => .empty

/-- The program of the chain and all before it, once its last clause has become `last`. -/
def complete : Chain → Program → Program
  | first .., last => last
  | after chain line condition body elseLine, last =>
    chain.complete (.choose chain.before line condition body elseLine last)

def start : Chain → Nat × Nat
  | first _ line column => (line, column)
  | after chain .. => chain.start

end Chain

/-- An open clause, the body of which is still being read. -/
inductive Clause where
  | test (chain : Chain) (line : Nat) (condition : Postfix)
  | otherwise (chain : Chain) (line : Nat) (condition : Postfix) (body : Program) (elseLine : Nat)

/-- The innermost open block so far. It may end in a chain that can go on, or in one that ended
with its `else`. -/
inductive Tail where
  | settled (program : Program)
  | closed (chain : Chain) (line : Nat) (condition : Postfix) (body : Program)
  | ended (program : Program)

def Tail.program : Tail → Program
  | settled program | ended program => program
  | closed chain line condition body => chain.complete (.when chain.before line condition body)

namespace Clause

def start : Clause → Nat × Nat
  | test chain .. | otherwise chain .. => chain.start

def close : Clause → Program → Tail
  | test chain line condition, body => .closed chain line condition body
  | otherwise chain line condition body elseLine, alternative =>
    .ended (chain.complete (.choose chain.before line condition body elseLine alternative))

end Clause

structure Outline where
  /-- The open clauses, the innermost first. -/
  clauses : List Clause
  tail : Tail

namespace Outline

def start : Outline := ⟨[], .settled .empty⟩

def enter (outline : Outline) (clause : Clause) : Outline :=
  ⟨clause :: outline.clauses, .settled .empty⟩

def add (outline : Outline) (line : Nat) (action : Step) : Outline :=
  { outline with tail := .settled (.step outline.tail.program line action) }

def leave (outline : Outline) (line column : Nat) : Except ScriptError Outline :=
  match outline.clauses with
  | [] => .error (.grammar line column .strayCloseBrace)
  | clause :: clauses => .ok ⟨clauses, clause.close outline.tail.program⟩

def separate (outline : Outline) (line : Nat) : Option Lexeme → Except ScriptError Outline
  | some ⟨column, .closeBrace⟩ => outline.leave line column
  | some ⟨column, .openBrace⟩ => .error (.grammar line column .strayOpenBrace)
  | _ => .ok outline

def continued (outline : Outline) (line column : Nat) (keyword : Token) :
    Except ScriptError (Chain × Nat × Postfix × Program) :=
  match outline.tail with
  | .settled _ => .error (.grammar line column (.noChain keyword))
  | .ended _ => .error (.grammar line column (.chainEnded keyword))
  | .closed chain before test body => .ok (chain, before, test, body)

def read (registry : Option Registry) (line : Nat) (outline : Outline) (chunk : Chunk) :
    Except ScriptError Outline :=
  match chunk.form with
  | .opening column header => do
    chunk.requireBrace line column .ifKeyword
    let condition ← Chunk.condition registry line column .ifKeyword header
    return outline.enter (.test (.first outline.tail.program line column) line condition)
  | .alternative column header => do
    let (chain, before, test, body) ← outline.continued line column .elseifKeyword
    chunk.requireBrace line column .elseifKeyword
    let condition ← Chunk.condition registry line column .elseifKeyword header
    return outline.enter (.test (.after chain before test body line) line condition)
  | .otherwise column header => do
    let (chain, before, test, body) ← outline.continued line column .elseKeyword
    Chunk.requireNothing line header
    chunk.requireBrace line column .elseKeyword
    return outline.enter (.otherwise chain before test body line)
  | .blank => outline.separate line chunk.terminator
  | .statement tokens => do
    let step ← Chunk.step registry line tokens
    (outline.add line step).separate line chunk.terminator

def finish (outline : Outline) : Except ScriptError Program :=
  match outline.clauses with
  | [] => .ok outline.tail.program
  | clause :: _ => .error (.grammar clause.start.1 clause.start.2 .unclosedBrace)

end Outline

/-- The program that a source spells. Calls are checked against the registry, if one is given. -/
def Program.ofSource (registry : Option Registry) (source : String) :
    Except ScriptError Program := do
  let lines := Text.lines source.toList
  (← Chunk.foldLines (Outline.read registry) .start 1 lines).finish

end EventScript
