/-!
# Decimal numerals

A numeral is written `digits[.digits][e[+|-]digits]` in ASCII digits. It denotes the double
nearest to its exact value, ties going to the even significand.
-/

namespace EventScript.Number

/-- An exponent part: whether it is negative, and its digits. -/
structure Exponent where
  negative : Bool
  digits : List Char
  deriving DecidableEq

structure Numeral where
  whole : List Char
  fraction : List Char
  exponent : Option Exponent
  deriving DecidableEq

def digitsValue (digits : List Char) : Nat :=
  digits.foldl (fun value c => 10 * value + (c.toNat - '0'.toNat)) 0

def Exponent.value (exponent : Exponent) : Int :=
  if exponent.negative then -(digitsValue exponent.digits : Int) else digitsValue exponent.digits

def infinity : Float := 1.0 / 0.0

/-- The double nearest to `digits * 10 ^ exponent`. Values of at least `10 ^ 310` are past the
largest double and values below `10 ^ (-330)` round to zero, so no huge power is ever formed. -/
def nearest (digits : Nat) (exponent : Int) : Float :=
  let magnitude := (Nat.toDigits 10 digits).length + exponent
  if digits = 0 ∨ magnitude < -330 then 0.0
  else if 311 ≤ magnitude then infinity
  else Float.ofScientific digits (decide (exponent < 0)) exponent.natAbs

def Numeral.value (numeral : Numeral) : Float :=
  nearest (digitsValue (numeral.whole ++ numeral.fraction))
    ((numeral.exponent.map Exponent.value).getD 0 - numeral.fraction.length)

/-- The digits of a fraction at the front of a text. A point that no digit follows starts none. -/
def fractionDigits : List Char → List Char
  | '.' :: rest => rest.takeWhile Char.isDigit
  | _ => []

def fractionWidth (digits : List Char) : Nat := if digits.isEmpty then 0 else digits.length + 1

/-- The sign at the front of a text: whether it is a minus, and how many characters it takes up. -/
def signPart : List Char → Bool × Nat
  | '+' :: _ => (false, 1)
  | '-' :: _ => (true, 1)
  | _ => (false, 0)

/-- The exponent at the front of a text, if a letter `e` and at least one digit stand there, and how
many characters it takes up. -/
def exponentPart : List Char → Option (Exponent × Nat)
  | [] => none
  | c :: rest =>
    let (negative, width) := signPart rest
    let digits := (rest.drop width).takeWhile Char.isDigit
    if (c = 'e' ∨ c = 'E') ∧ !digits.isEmpty then
      some (⟨negative, digits⟩, 1 + width + digits.length)
    else none

/-- The longest numeral at the front of a text, and how many characters it takes up. -/
def Numeral.scan (text : List Char) : Numeral × Nat :=
  let whole := text.takeWhile Char.isDigit
  let fraction := fractionDigits (text.drop whole.length)
  let width := whole.length + fractionWidth fraction
  match exponentPart (text.drop width) with
  | some (exponent, more) => (⟨whole, fraction, some exponent⟩, width + more)
  | none => (⟨whole, fraction, none⟩, width)

end EventScript.Number
