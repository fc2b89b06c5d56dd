/-!
Bytes written in base 64.

Four characters carry three bytes and equal signs fill up the last four. Other characters do not count;
the padding must be complete, and what follows it is not read.
-/

namespace Curfew.Yaml.Base64

/-- What a character stands for. -/
def sextet? (c : Char) : Option Nat :=
  if 'A' ≤ c && c ≤ 'Z' then some (c.toNat - 'A'.toNat)
  else if 'a' ≤ c && c ≤ 'z' then some (c.toNat - 'a'.toNat + 26)
  else if '0' ≤ c && c ≤ '9' then some (c.toNat - '0'.toNat + 52)
  else if c == '+' then some 62
  else if c == '/' then some 63
  else none

/-- A group under way: how many of its four characters came, how many equal signs came since, and the
bits that do not make a byte yet. -/
structure Group where
  count : Nat
  pads : Nat
  bits : Nat

/-- The byte that one more character completes. -/
def byte (g : Group) (n : Nat) : List UInt8 :=
  match g.count with
  | 0 => []
  | 1 => [UInt8.ofNat (g.bits * 4 + n / 16)]
  | 2 => [UInt8.ofNat (g.bits * 16 + n / 4)]
  | _ => [UInt8.ofNat (g.bits * 64 + n)]

/-- The bits that are left after one more character. -/
def left (g : Group) (n : Nat) : Nat :=
  match g.count with
  | 0 => n
  | 1 => n % 16
  | 2 => n % 4
  | _ => 0

/-- The bytes of the rest of a text, the group under way included. -/
def decodeFrom : Group → List Char → Option (List UInt8)
  | g, [] => if g.count = 0 then some [] else none
  | g, c :: cs =>
    if c == '=' then
      if 2 ≤ g.count then
        if 4 ≤ g.count + g.pads + 1 then some []
        else decodeFrom { g with pads := g.pads + 1 } cs
      else decodeFrom g cs
    else match sextet? c with
      | none => decodeFrom g cs
      | some n =>
        (decodeFrom { count := (g.count + 1) % 4, pads := 0, bits := left g n } cs).map
          (byte g n ++ ·)

/-- The bytes of a text. -/
def decode (cs : List Char) : Option (List UInt8) :=
  decodeFrom { count := 0, pads := 0, bits := 0 } cs

end Curfew.Yaml.Base64
