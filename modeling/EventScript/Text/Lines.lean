import EventScript.Text.Character

/-!
# Lines

How a source is cut into lines: each line ends in a newline, and a carriage return right before
it belongs to the line end. The last line may lack its newline; it then keeps a carriage return.
-/

namespace EventScript.Text

/-- A finished line, given backwards, without the carriage return of its line end. -/
def endLine : List Char → List Char
  | '\r' :: line => line.reverse
  | line => line.reverse

/-- The lines of a text whose first line already began with `line`, given backwards. -/
def linesAfter (line : List Char) : List Char → List (List Char)
  | [] => if line.isEmpty then [] else [line.reverse]
  | c :: rest => if c = '\n' then endLine line :: linesAfter [] rest else linesAfter (c :: line) rest

def lines (text : List Char) : List (List Char) := linesAfter [] text

def wholeLinesAfter (line : List Char) : List Char → List (List Char)
  | [] => if line.isEmpty then [] else [line.reverse]
  | c :: rest =>
    if c = '\n' then (c :: line).reverse :: wholeLinesAfter [] rest
    else wholeLinesAfter (c :: line) rest

def wholeLines (text : List Char) : List (List Char) := wholeLinesAfter [] text

def trim (text : List Char) : List Char :=
  ((text.dropWhile isBlank).reverse.dropWhile isBlank).reverse

def after? : (start text : List Char) → Option (List Char)
  | [], text => some text
  | _ :: _, [] => none
  | c :: start, d :: text => if c = d then after? start text else none

end EventScript.Text
