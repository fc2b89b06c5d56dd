/-!
Digits of every script (Unicode 14), and digits of a base up to thirty-six.
-/

namespace Curfew.Text

/-- The code points of the zeros: each script's ten decimal digits follow one another. -/
def zeros : List Nat :=
  [0x30, 0x660, 0x6f0, 0x7c0, 0x966, 0x9e6, 0xa66, 0xae6, 0xb66, 0xbe6, 0xc66, 0xce6, 0xd66, 0xde6,
   0xe50, 0xed0, 0xf20, 0x1040, 0x1090, 0x17e0, 0x1810, 0x1946, 0x19d0, 0x1a80, 0x1a90, 0x1b50,
   0x1bb0, 0x1c40, 0x1c50, 0xa620, 0xa8d0, 0xa900, 0xa9d0, 0xa9f0, 0xaa50, 0xabf0, 0xff10, 0x104a0,
   0x10d30, 0x11066, 0x110f0, 0x11136, 0x111d0, 0x112f0, 0x11450, 0x114d0, 0x11650, 0x116c0,
   0x11730, 0x118e0, 0x11950, 0x11c50, 0x11d50, 0x11da0, 0x16a60, 0x16ac0, 0x16b50, 0x1d7ce,
   0x1d7d8, 0x1d7e2, 0x1d7ec, 0x1d7f6, 0x1e140, 0x1e2f0, 0x1e950, 0x1fbf0]

/-- What a decimal digit of any script stands for. -/
def decimalDigit? (c : Char) : Option Nat :=
  (zeros.find? fun first => first ≤ c.toNat && c.toNat < first + 10).map (c.toNat - ·)

/-- What a Latin letter stands for as a digit: ten for the first. -/
def letterDigit? (c : Char) : Option Nat :=
  if 'a' ≤ c && c ≤ 'z' then some (c.toNat - 'a'.toNat + 10)
  else if 'A' ≤ c && c ≤ 'Z' then some (c.toNat - 'A'.toNat + 10)
  else none

/-- What a digit of the base stands for, in either case and any script. -/
def digit? (base : Nat) (c : Char) : Option Nat :=
  ((decimalDigit? c).or (letterDigit? c)).filter (· < base)

/-- The lower-case digit of a number below thirty-six. -/
def digitChar (n : Nat) : Char :=
  if n < 10 then Char.ofNat ('0'.toNat + n) else Char.ofNat ('a'.toNat + (n - 10))

/-- The digits of a number in a base, most significant first; a lone zero for zero. -/
def digits (base n : Nat) : List Char :=
  if 2 ≤ base ∧ base ≤ n then digits base (n / base) ++ [digitChar (n % base)]
  else [digitChar n]
  termination_by n
  decreasing_by exact Nat.div_lt_self (by omega) (by omega)

/-- The digits of a number, with zeros before them up to the width. -/
def paddedDigits (base width n : Nat) : List Char :=
  let written := digits base n
  List.replicate (width - written.length) '0' ++ written

end Curfew.Text
