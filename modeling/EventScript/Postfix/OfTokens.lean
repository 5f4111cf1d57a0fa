import EventScript.Error.Grammar
import EventScript.Postfix

/-!
# From tokens to postfix code

Operators wait on a stack until an operator that binds less tightly, a closing parenthesis or the
end releases them, so one pass over the tokens writes the code. Errors name the column of a token.
-/

namespace EventScript

inductive ExpressionError where
  | empty
  | at (column : Nat) (cause : GrammarError)
  deriving DecidableEq

/-- What waits for its end: an operator for its last operand, a parenthesis or a call for its
closing parenthesis. A call counts the arguments that a comma has ended. -/
inductive Pending where
  | operator (op : Operator)
  | paren (column : Nat)
  | call (name : String) (count column : Nat)
  deriving DecidableEq

/-- Where the conversion stands. `written` and `pending` have their latest entry in front. -/
structure Conversion where
  written : Postfix
  pending : List Pending
  /-- Whether an operand has to come next, rather than an operator. -/
  wantsOperand : Bool
  /-- Whether the last token opened a parenthesis. -/
  justOpened : Bool

namespace Conversion

def start : Conversion := ⟨[], [], true, false⟩

def splitOperators : List Pending → List Operator × List Pending
  | .operator op :: rest =>
    let (operators, behind) := splitOperators rest
    (op :: operators, behind)
  | pending => ([], pending)

/-- The operators in front that bind at least as tightly as the incoming one, and what lies behind
them. -/
def splitTighter (incoming : Operator) : List Pending → List Operator × List Pending
  | .operator op :: rest =>
    if op.yieldsTo incoming then
      let (operators, behind) := splitTighter incoming rest
      (op :: operators, behind)
    else ([], .operator op :: rest)
  | pending => ([], pending)

def write (written : Postfix) (operators : List Operator) : Postfix :=
  operators.foldl (fun code op => .operate op :: code) written

def refuse (column : Nat) (cause : GrammarError) : Except ExpressionError Conversion :=
  .error (.at column cause)

def operand (state : Conversion) (column : Nat) (token : Token) (instruction : Instruction) :
    Except ExpressionError Conversion :=
  if state.wantsOperand then
    .ok { state with
          written := instruction :: state.written, wantsOperand := false, justOpened := false }
  else refuse column (.missingOperator token)

def await (state : Conversion) (column : Nat) (token : Token) (entry : Pending) (opened : Bool) :
    Except ExpressionError Conversion :=
  if state.wantsOperand then
    .ok { state with pending := entry :: state.pending, justOpened := opened }
  else refuse column (.missingOperator token)

def binary (state : Conversion) (column : Nat) (incoming : Operator) :
    Except ExpressionError Conversion :=
  if state.wantsOperand then refuse column (.missingLeftOperand incoming)
  else
    let (operators, behind) := splitTighter incoming state.pending
    .ok { written := write state.written operators
          pending := .operator incoming :: behind
          wantsOperand := true
          justOpened := false }

/-- A plus or minus: a sign where an operand has to come, else an operator between two. -/
def sign (state : Conversion) (column : Nat) (asSign between : Operator) :
    Except ExpressionError Conversion :=
  if state.wantsOperand then
    .ok { state with pending := .operator asSign :: state.pending, justOpened := false }
  else state.binary column between

def close (state : Conversion) (column : Nat) : Except ExpressionError Conversion :=
  if state.wantsOperand && !state.justOpened then refuse column .missingOperandBeforeClose
  else
    let (operators, behind) := splitOperators state.pending
    let written := write state.written operators
    match behind with
    | .paren _ :: rest =>
      if state.justOpened then refuse column .emptyParens
      else .ok ⟨written, rest, false, false⟩
    | .call name count _ :: rest =>
      let total := if state.justOpened then 0 else count + 1
      .ok ⟨.call name total :: written, rest, false, false⟩
    | _ => refuse column .unmatchedClose

def comma (state : Conversion) (column : Nat) : Except ExpressionError Conversion :=
  if state.wantsOperand then refuse column .missingArgument
  else
    let (operators, behind) := splitOperators state.pending
    match behind with
    | .call name count opened :: rest =>
      .ok { written := write state.written operators
            pending := .call name (count + 1) opened :: rest
            wantsOperand := true
            justOpened := false }
    | _ => refuse column .commaOutsideCall

def step (state : Conversion) (column : Nat) (token : Token) : Except ExpressionError Conversion :=
  match token with
  | .number x => state.operand column token (.push (.number x))
  | .text s => state.operand column token (.push (.text s))
  | .trueKeyword => state.operand column token (.push (.boolean true))
  | .falseKeyword => state.operand column token (.push (.boolean false))
  | .ident name => state.operand column token (.load name)
  | .openParen => state.await column token (.paren column) true
  | .notKeyword => state.await column token (.operator .not) false
  | .closeParen => state.close column
  | .comma => state.comma column
  | .plus => state.sign column .identity .plus
  | .minus => state.sign column .negate .minus
  | .asterisk => state.binary column .times
  | .slash => state.binary column .divide
  | .percent => state.binary column .modulo
  | .caret => state.binary column .power
  | .less => state.binary column .less
  | .lessEq => state.binary column .lessEq
  | .greater => state.binary column .greater
  | .greaterEq => state.binary column .greaterEq
  | .equal => state.binary column .equal
  | .notEqual => state.binary column .notEqual
  | .andKeyword => state.binary column .and
  | .orKeyword => state.binary column .or
  | .assign | .semicolon | .openBrace | .closeBrace | .ifKeyword | .elseifKeyword | .elseKeyword
  | .globalKeyword => refuse column (.unexpected token)

/-- All tokens in order; an identifier right before a parenthesis starts a call. -/
def run (state : Conversion) : List Lexeme → Except ExpressionError Conversion
  | [] => .ok state
  | ⟨column, .ident name⟩ :: ⟨_, .openParen⟩ :: rest => do
    (← state.await column (.ident name) (.call name 0 column) true).run rest
  | ⟨column, token⟩ :: rest => do
    (← state.step column token).run rest

def finish (state : Conversion) (last : Nat) : Except ExpressionError Postfix :=
  if state.wantsOperand then .error (.at last .endsWithoutOperand)
  else
    let (operators, behind) := splitOperators state.pending
    match behind with
    | .paren column :: _ | .call _ _ column :: _ => .error (.at column .unclosedParen)
    | _ => .ok (write state.written operators).reverse

end Conversion

namespace Postfix

def lastColumn (tokens : List Lexeme) : Nat := (tokens.getLast?.map Lexeme.column).getD 1

def assemble (tokens : List Lexeme) : Except ExpressionError Postfix :=
  if tokens.isEmpty then .error .empty
  else do (← Conversion.start.run tokens).finish (lastColumn tokens)

def balanced (column : Nat) (code : Postfix) : Except ExpressionError Postfix :=
  match code.stackEffect with
  | .ok 1 => .ok code
  | .ok count => .error (.at column (.valuesLeft count))
  | .error index => .error (.at column (.underflow index))

def ofLexemes (tokens : List Lexeme) : Except ExpressionError Postfix := do
  balanced (lastColumn tokens) (← assemble tokens)

/-- The postfix code of an expression whose tokens stand in columns 1, 2, … -/
def ofTokens (tokens : List Token) : Except ExpressionError Postfix :=
  ofLexemes (tokens.mapIdx fun index token => ⟨index + 1, token⟩)

end Postfix

end EventScript
