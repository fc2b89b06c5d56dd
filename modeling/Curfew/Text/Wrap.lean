import Curfew.Text.Cell

/-!
Texts wrapped to a width.

Lines are broken between words. A word that is too long for a line of its own is folded into several
lines or, if it is not to be folded, cut off. The blanks behind a word need not fit.
-/

namespace Curfew.Text.Wrap

/-! ### Words -/

/-- The words of a line, each with the blanks behind it and the first with those in front of it. -/
def words (cs : List Char) : List (List Char) :=
  match cs.splitBy fun a b => isBlank b || !isBlank a with
  | front :: word :: rest => if front.all isBlank then (front ++ word) :: rest else front :: word :: rest
  | few => few

/-- The pieces of a word that each fill a line, given how much of the first line is taken. -/
def pieces (width : Nat) : Nat → List Char → List (List Char)
  | _, [] => [[]]
  | used, c :: cs =>
    let rest (used : Nat) : List (List Char) :=
      match pieces width used cs with
      | [] => [[c]]
      | piece :: more => (c :: piece) :: more
    if used + Cell.size c > width then [] :: rest (Cell.size c) else rest (used + Cell.size c)

/-! ### Lines -/

/-- Lines that are filled: those before from the last, and the current one with its width. -/
structure Filling where
  before : List (List Char)
  line : List Char
  used : Nat

namespace Filling

/-- Begins a new line, unless nothing was written so far. -/
def breakLine (f : Filling) : Filling :=
  if f.line.isEmpty && f.before.isEmpty then f
  else { before := f.line :: f.before, line := [], used := 0 }

def write (cs : List Char) (f : Filling) : Filling :=
  { f with line := f.line ++ cs, used := f.used + Cell.width cs }

/-- Writes a word where there is room for it. -/
def add (folds : Bool) (width : Nat) (f : Filling) (word : List Char) : Filling :=
  let size := Cell.width (word.reverse.dropWhile isBlank)
  if f.used + size ≤ width then f.write word
  else if size > width then
    let parts := if folds then pieces width 0 word else [word]
    parts.foldl (fun f part => f.breakLine.write part) f
  else if f.used = 0 then { f with line := f.line ++ word }
  else f.breakLine.write word

end Filling

/-- A line as the lines that its words fill. -/
def fill (folds : Bool) (width : Nat) (cs : List Char) : List (List Char) :=
  let f := (words cs).foldl (Filling.add folds width) { before := [], line := [], used := 0 }
  (f.line :: f.before).reverse

/-- A line without blanks at its end that are too many. -/
def cropEnd (width : Nat) (cs : List Char) : List Char :=
  let blanks := (cs.reverse.takeWhile isBlank).length
  cs.take (cs.length - min blanks (cs.length - width))

/-- The distance between two stops of the tabulator. -/
def tabStop : Nat := 8

/-- A line with spaces for tabs, given its width so far. -/
def expandTabs : Nat → List Char → List Char
  | _, [] => []
  | used, c :: cs =>
    if c = '\t' then
      let next := (used / tabStop + 1) * tabStop
      List.replicate (next - used) ' ' ++ expandTabs next cs
    else c :: expandTabs (used + Cell.size c) cs

/-- The lines of a text, wrapped. -/
def lines (folds : Bool) (width : Nat) (cs : List Char) : List (List Char) :=
  (splitAt '\n' cs).flatMap fun line => (fill folds width (expandTabs 0 line)).map (cropEnd width)

/-! ### Cutting -/

/-- The front of a line that has a width; half of a wide character is a space. -/
def front : Nat → List Char → List Char
  | _, [] => []
  | room, c :: cs =>
    if Cell.size c ≤ room then c :: front (room - Cell.size c) cs else List.replicate room ' '

/-- A line that is not wider than it may be, with an ellipsis where it was cut off. -/
def shorten (width : Nat) (cs : List Char) : List Char :=
  if Cell.width cs ≤ width then cs else front (width - 1) cs ++ ['…']

end Curfew.Text.Wrap
