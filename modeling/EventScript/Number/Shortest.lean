/-!
# The shortest decimal of a double

A double is written with the fewest significant digits that read back as the same double, and
among those with the digits nearest to its exact value. All arithmetic is on natural numbers: a
positive finite double is `significand * 2 ^ exponent`, and the reals that round to it form an
interval whose ends belong to it exactly when the significand is even.
-/

namespace EventScript.Number

/-- The positive real `numerator / denominator`, with the ends of the interval of reals that
round to the same double, all over the one denominator. -/
structure Rounding where
  low : Nat
  value : Nat
  high : Nat
  denominator : Nat
  /-- Whether the two ends round to the value too. -/
  closed : Bool

/-- The interval around `significand * 2 ^ exponent`, in quarters of the last place. Below a power
of two the doubles lie twice as close, unless it is the smallest normal one. -/
def Rounding.around (significand : Nat) (exponent : Int) : Rounding :=
  let below := if significand = Nat.pow 2 52 ∧ -1074 < exponent then 1 else 2
  let scale := Nat.pow 2 (exponent - 2).toNat
  { low := (4 * significand - below) * scale
    value := 4 * significand * scale
    high := (4 * significand + 2) * scale
    denominator := Nat.pow 2 (2 - exponent).toNat
    closed := significand % 2 == 0 }

def Rounding.holds (interval : Rounding) (digits : Nat) (power : Int) : Bool :=
  let point := digits * Nat.pow 10 power.toNat * interval.denominator
  let unit := Nat.pow 10 (-power).toNat
  if interval.closed then
    decide (interval.low * unit ≤ point) && decide (point ≤ interval.high * unit)
  else decide (interval.low * unit < point) && decide (point < interval.high * unit)

/-- The multiple of `10 ^ power` that reads back as the value, the nearer one if both neighbours
do and the upper one if they are equally near. -/
def Rounding.onGrid (interval : Rounding) (power : Int) : Option Nat :=
  let numerator := interval.value * Nat.pow 10 (-power).toNat
  let step := interval.denominator * Nat.pow 10 power.toNat
  let down := numerator / step
  match interval.holds down power, interval.holds (down + 1) power with
  | true, true => if 2 * (numerator % step) < step then some down else some (down + 1)
  | true, false => some down
  | false, true => some (down + 1)
  | false, false => none

/-- A power of ten above `significand * 2 ^ exponent`, at most two places too high. -/
def topPower (significand : Nat) (exponent : Int) : Int :=
  (((significand.log2 : Int) + 1 + exponent) * 30103).fdiv 100000 + 1

/-- The fewest digits that read back, with the power of ten of the last one. The grids are tried
from coarse to fine; seventeen digits always suffice. -/
def shortest (significand : Nat) (exponent : Int) : Nat × Int :=
  let top := topPower significand exponent
  let interval := Rounding.around significand exponent
  let found := (List.range 24).findSome? fun (place : Nat) =>
    (interval.onGrid (top - place)).map fun digits => (digits, top - place)
  found.getD (0, 0)

def positional (digits : Nat) (power : Int) : List Char :=
  let text := Nat.toDigits 10 digits
  let places := (-power).toNat
  if places = 0 then text ++ List.replicate power.toNat '0'
  else
    let padded := List.replicate (places + 1 - text.length) '0' ++ text
    padded.take (padded.length - places) ++ '.' :: padded.drop (padded.length - places)

/-- The significand and exponent of a finite double, its sign aside. -/
def decode (x : Float) : Nat × Int :=
  let magnitude : Nat := x.toBits.toNat % Nat.pow 2 63
  let biased : Nat := magnitude / Nat.pow 2 52
  let fraction : Nat := magnitude % Nat.pow 2 52
  if biased = 0 then (fraction, -1074) else (Nat.pow 2 52 + fraction, (biased : Int) - 1075)

def magnitudeText (x : Float) : List Char :=
  let (significand, exponent) := decode x
  if significand = 0 then ['0']
  else
    let (digits, power) := shortest significand exponent
    positional digits power

/-- The shortest decimal that reads back, written in full. A negative zero keeps its sign; a NaN
has none. -/
def text (x : Float) : String :=
  let sign := if x.toBits.toNat < Nat.pow 2 63 then [] else ['-']
  if x.isNaN then "NaN"
  else if x.isInf then String.ofList (sign ++ ['i', 'n', 'f'])
  else String.ofList (sign ++ magnitudeText x)

end EventScript.Number
