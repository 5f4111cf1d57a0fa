import EventScript.Chunk
import EventScript.Proofs.Expression.Acceptance

/-!
# The grammar of scripts

Which tokens, line by line, spell a script: statements, each ended by a semicolon, the end of its
line or the brace around it, and conditionals with their clauses.
-/

namespace EventScript

inductive Symbol where
  | token (lexeme : Lexeme)
  | lineEnd

def spelled (tokens : List Lexeme) : List Symbol := tokens.map .token

def symbols (lines : List (List Lexeme)) : List Symbol :=
  lines.flatMap fun tokens => spelled tokens ++ [.lineEnd]

def Converts (tokens : List Lexeme) : Prop := ∃ code, Postfix.ofLexemes tokens = .ok code

inductive IsStatement : List Lexeme → Prop where
  | expression {tokens : List Lexeme} : Converts tokens → IsStatement tokens
  | assignment (column : Nat) (target : String) (sign : Nat) {value : List Lexeme} :
      Converts value → IsStatement (⟨column, .ident target⟩ :: ⟨sign, .assign⟩ :: value)
  | globalAssignment (keyword column : Nat) (target : String) (sign : Nat) {value : List Lexeme} :
      Converts value →
      IsStatement
        (⟨keyword, .globalKeyword⟩ :: ⟨column, .ident target⟩ :: ⟨sign, .assign⟩ :: value)

inductive IsEnd : Symbol → Prop where
  | semicolon (column : Nat) : IsEnd (.token ⟨column, .semicolon⟩)
  | lineEnd : IsEnd .lineEnd

def IsGap (gap : List Symbol) : Prop := ∀ symbol ∈ gap, IsEnd symbol

/-- The symbols of a clause, given what follows its opening brace. -/
def clause (header : List Lexeme) (brace : Nat) (rest : List Symbol) : List Symbol :=
  spelled header ++ .token ⟨brace, .openBrace⟩ :: rest

mutual

inductive IsBlock : List Symbol → Prop where
  | nil : IsBlock []
  | snoc {block item : List Symbol} : IsBlock block → IsItem item → IsBlock (block ++ item)

inductive IsItem : List Symbol → Prop where
  | empty {symbol : Symbol} : IsEnd symbol → IsItem [symbol]
  | statement {tokens : List Lexeme} {symbol : Symbol} :
      IsStatement tokens → IsEnd symbol → IsItem (spelled tokens ++ [symbol])
  | chain {chain : List Symbol} : IsChain chain → IsItem chain
  | otherwise {chain gap body : List Symbol} (column brace : Nat) :
      IsChain chain → IsGap gap → IsBody body →
      IsItem (chain ++ gap ++ clause [⟨column, .elseKeyword⟩] brace body)

inductive IsChain : List Symbol → Prop where
  | opening {condition : List Lexeme} {body : List Symbol} (column brace : Nat) :
      Converts condition → IsBody body →
      IsChain (clause (⟨column, .ifKeyword⟩ :: condition) brace body)
  | alternative {chain gap : List Symbol} {condition : List Lexeme} {body : List Symbol}
      (column brace : Nat) :
      IsChain chain → IsGap gap → Converts condition → IsBody body →
      IsChain (chain ++ gap ++ clause (⟨column, .elseifKeyword⟩ :: condition) brace body)

/-- A block with the brace that closes it, which may also end its last statement. -/
inductive IsBody : List Symbol → Prop where
  | block {block : List Symbol} (brace : Nat) :
      IsBlock block → IsBody (block ++ [.token ⟨brace, .closeBrace⟩])
  | statement {block : List Symbol} {tokens : List Lexeme} (brace : Nat) :
      IsBlock block → IsStatement tokens →
      IsBody (block ++ (spelled tokens ++ [.token ⟨brace, .closeBrace⟩]))

end

end EventScript
