import EventScript.Chunk

/-!
# Assembling

The statements of a block are emitted while a script is read. The targets of branches and jumps are
not known then: they are emitted as zero, and set once their conditional goes on or ends.
-/

namespace EventScript

/-- A conditional, one clause of which is open or was the last to be closed. -/
structure Conditional where
  /-- The branch of the clause, unless it is the `else`. Its target is where the next clause starts
  or the conditional ends. -/
  branch : Option Nat
  /-- The jumps out of the clauses before, to the end of the conditional. -/
  jumps : List Nat
  hasElse : Bool
  /-- The line and the column of the `if`. -/
  line : Nat
  column : Nat

def Statement.retarget (target : Nat) (statement : Statement) : Statement :=
  { statement with
    command :=
      match statement.command with
      | .branch condition _ => .branch condition target
      | .jump _ => .jump target
      | .perform step => .perform step }

def Block.redirect (target : Nat) (block : Block) (index : Nat) : Block :=
  block.modify index (Statement.retarget target)

structure Assembler where
  statements : Block
  /-- The conditionals with an open clause, the innermost first. -/
  opened : List Conditional
  /-- The conditional that was just closed, and may go on with another clause. -/
  closed : Option Conditional

namespace Assembler

def start : Assembler := ⟨[], [], none⟩

def emit (assembler : Assembler) (line : Nat) (command : Command) : Assembler :=
  { assembler with statements := assembler.statements ++ [⟨line, command⟩] }

/-- The branch of a conditional leads behind all that was emitted. -/
def patchBranch (assembler : Assembler) (conditional : Conditional) : Assembler :=
  match conditional.branch with
  | some index =>
    { assembler with
      statements := assembler.statements.redirect assembler.statements.length index }
  | none => assembler

/-- The conditional that was just closed does not go on. -/
def settle (assembler : Assembler) : Assembler :=
  match assembler.closed with
  | none => assembler
  | some conditional =>
    let patched := { assembler with closed := none }.patchBranch conditional
    { patched with
      statements :=
        conditional.jumps.foldl (Block.redirect patched.statements.length) patched.statements }

/-- The conditional that goes on with another clause. -/
def continued (assembler : Assembler) (line column : Nat) (keyword : Token) :
    Except ScriptError Conditional :=
  match assembler.closed with
  | none => .error (.grammar line column (.noChain keyword))
  | some conditional =>
    if conditional.hasElse then .error (.grammar line column (.chainEnded keyword))
    else .ok conditional

/-- Leaves the clause that was just closed, the branch of which leads to what comes next. -/
def leave (assembler : Assembler) (line : Nat) (conditional : Conditional) : Assembler :=
  ({ assembler with closed := none }.emit line (.jump 0)).patchBranch conditional

def enter (assembler : Assembler) (line : Nat) (condition : Postfix)
    (conditional : Option Nat → Conditional) : Assembler :=
  { assembler.emit line (.branch condition 0) with
    opened := conditional (some assembler.statements.length) :: assembler.opened }

def separate (assembler : Assembler) (line : Nat) : Option Lexeme → Except ScriptError Assembler
  | some ⟨column, .closeBrace⟩ =>
    match assembler.opened with
    | [] => .error (.grammar line column .strayCloseBrace)
    | conditional :: opened => .ok { assembler with opened, closed := some conditional }
  | some ⟨column, .openBrace⟩ => .error (.grammar line column .strayOpenBrace)
  | _ => .ok assembler

def read (registry : Option Registry) (line : Nat) (assembler : Assembler) (chunk : Chunk) :
    Except ScriptError Assembler :=
  match chunk.form with
  | .opening column header => do
    chunk.requireBrace line column .ifKeyword
    let condition ← Chunk.condition registry line column .ifKeyword header
    return assembler.settle.enter line condition fun branch => ⟨branch, [], false, line, column⟩
  | .alternative column header => do
    let conditional ← assembler.continued line column .elseifKeyword
    chunk.requireBrace line column .elseifKeyword
    let condition ← Chunk.condition registry line column .elseifKeyword header
    let jumps := conditional.jumps ++ [assembler.statements.length]
    return (assembler.leave line conditional).enter line condition fun branch =>
      { conditional with branch, jumps }
  | .otherwise column header => do
    let conditional ← assembler.continued line column .elseKeyword
    Chunk.requireNothing line header
    chunk.requireBrace line column .elseKeyword
    let jumps := conditional.jumps ++ [assembler.statements.length]
    let left := assembler.leave line conditional
    return { left with
      opened := { conditional with branch := none, jumps, hasElse := true } :: left.opened }
  | .blank =>
    (if chunk.endsIn .closeBrace then assembler.settle else assembler).separate line
      chunk.terminator
  | .statement tokens => do
    let step ← Chunk.step registry line tokens
    (assembler.settle.emit line (.perform step)).separate line chunk.terminator

def finish (assembler : Assembler) : Except ScriptError Block :=
  match assembler.opened with
  | [] => .ok assembler.settle.statements
  | conditional :: _ => .error (.grammar conditional.line conditional.column .unclosedBrace)

end Assembler

end EventScript
