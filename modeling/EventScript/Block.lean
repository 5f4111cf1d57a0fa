import EventScript.Function
import EventScript.Postfix

/-!
# Blocks

Compiled scripts: statements in a row, with branches and jumps for their conditionals.
-/

namespace EventScript

inductive Scope where
  /-- The locals, unless only the globals know the name. -/
  | nearest
  | global
  deriving DecidableEq, Repr

inductive Step where
  | evaluate (code : Postfix)
  | assign (scope : Scope) (target : String) (value : Postfix)
  deriving DecidableEq

inductive Command where
  | perform (step : Step)
  /-- Goes on at the target if the condition is false. -/
  | branch (condition : Postfix) (target : Nat)
  | jump (target : Nat)
  deriving DecidableEq

structure Statement where
  line : Nat
  command : Command
  deriving DecidableEq

abbrev Block : Type := List Statement

namespace Step

def code : Step → Postfix
  | evaluate code => code
  | assign _ _ value => value

def display : Step → String
  | evaluate code => s!"EVAL {code.display}"
  | assign .nearest target value => s!"ASSIGN {target} := {value.display}"
  | assign .global target value => s!"ASSIGN global {target} := {value.display}"

end Step

def fourDigits (n : Nat) : String :=
  let digits := Nat.toDigits 10 n
  String.ofList (List.replicate (4 - digits.length) '0' ++ digits)

namespace Command

def code? : Command → Option Postfix
  | perform step => some step.code
  | branch condition _ => some condition
  | jump _ => none

/-- Where the command may go on instead of at the next statement. -/
def target? : Command → Option Nat
  | perform _ => none
  | branch _ target | jump target => some target

def isAssignment : Command → Bool
  | perform (.assign ..) => true
  | _ => false

def display : Command → String
  | perform step => step.display
  | branch condition target => s!"BRANCH {fourDigits target} unless {condition.display}"
  | jump target => s!"JUMP {fourDigits target}"

end Command

def Postfix.isPure (registry : Registry) (code : Postfix) : Bool :=
  code.calls.all fun (name, _) => (registry.get? name).any fun function => !function.hasSideEffects

namespace Block

def listing (block : Block) : String :=
  String.join <| block.mapIdx fun index statement =>
    s!"{fourDigits index} {statement.command.display}\n"

/-- Whether running the block can change nothing: it assigns nothing and calls only registered
functions without side effects. -/
def isPure (registry : Registry) (block : Block) : Bool :=
  block.all fun statement =>
    !statement.command.isAssignment && statement.command.code?.all (Postfix.isPure registry)

end Block

end EventScript
