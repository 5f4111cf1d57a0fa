import EventScript.Text.Alphabetic
import EventScript.Text.Numeric
import EventScript.Text.Combining
import EventScript.Text.Unprintable

/-!
# Classes of characters

What counts as a blank, a letter, a numeral or a printable character. ASCII is decided by the
tests of `Char`, everything beyond it by the range tables.
-/

namespace EventScript.Text

def within (ranges : List (Nat × Nat)) (code : Nat) : Bool :=
  ranges.any fun range => decide (range.1 ≤ code) && decide (code ≤ range.2)

/-- The code points with the Unicode property White_Space. -/
def blankRanges : List (Nat × Nat) :=
  [(0x9, 0xd), (0x20, 0x20), (0x85, 0x85), (0xa0, 0xa0), (0x1680, 0x1680), (0x2000, 0x200a),
   (0x2028, 0x2029), (0x202f, 0x202f), (0x205f, 0x205f), (0x3000, 0x3000)]

def isBlank (c : Char) : Bool := within blankRanges c.toNat

def isAlphabetic (c : Char) : Bool :=
  if c.toNat < 128 then c.isAlpha else within alphabeticRanges c.toNat

def isNumeric (c : Char) : Bool :=
  if c.toNat < 128 then c.isDigit else within numericRanges c.toNat

/-- Whether quoted text shows `c` as it is, apart from the quote and the backslash. -/
def isPrintable (c : Char) : Bool :=
  if c.toNat < 128 then decide (32 ≤ c.toNat) && decide (c.toNat < 127)
  else !within combiningRanges c.toNat && !within unprintableRanges c.toNat

end EventScript.Text
