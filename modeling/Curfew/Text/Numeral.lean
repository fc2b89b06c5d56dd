import Curfew.Text.Blank
import Curfew.Text.Digit

/-!
Whole numbers as people write them, and as they are written back.

A numeral is a sign, an optional mark of its base, and digits of any script with single underscores
between them; padding around it does not count.
-/

namespace Curfew.Text

/-- The value of digits with single underscores between them; `none` for anything else. -/
def groupedDigits? (base : Nat) : List Char → Nat → Option Nat
  | [], value => some value
  | ['_'], _ => none
  | '_' :: c :: cs, value => do groupedDigits? base cs (value * base + (← digit? base c))
  | c :: cs, value => do groupedDigits? base cs (value * base + (← digit? base c))

/-- The letter that marks a numeral of the base behind a zero. -/
def baseMark? (base : Nat) : Option Char :=
  if base = 2 then some 'b' else if base = 8 then some 'o' else if base = 16 then some 'x' else none

/-- The digits behind the mark of the base, if one is there; an underscore may follow the mark. -/
def dropBaseMark (base : Nat) (cs : List Char) : List Char :=
  match cs with
  | first :: mark :: rest =>
    if decimalDigit? first = some 0 && baseMark? base = some mark.toLower then
      match rest with
      | '_' :: more => more
      | _ => rest
    else cs
  | _ => cs

/-- The unsigned number that the digits of a numeral stand for. -/
def unsigned? (base : Nat) (cs : List Char) : Option Nat :=
  match cs with
  | [] => none
  | c :: rest => do groupedDigits? base rest (← digit? base c)

/-- The whole number that a text stands for in the base. -/
def integer? (base : Nat) (cs : List Char) : Option Int :=
  match trimWith isPadding cs with
  | '+' :: cs => (unsigned? base (dropBaseMark base cs)).map Int.ofNat
  | '-' :: cs => (unsigned? base (dropBaseMark base cs)).map fun n => -Int.ofNat n
  | cs => (unsigned? base (dropBaseMark base cs)).map Int.ofNat

/-- A whole number in decimal digits, with a minus sign when it is negative. -/
def decimalChars (i : Int) : List Char :=
  if i < 0 then '-' :: digits 10 i.natAbs else digits 10 i.natAbs

def decimal (i : Int) : String := String.ofList (decimalChars i)

/-- A whole number in octal digits, with zeros between the sign and the digits up to the width. -/
def octalChars (width : Nat) (i : Int) : List Char :=
  if i < 0 then '-' :: paddedDigits 8 (width - 1) i.natAbs else paddedDigits 8 width i.natAbs

end Curfew.Text
