/-!
Surrogates: code points that are halves of pairs and no characters.

Escapes in documents and records may give half a pair alone. A text holds it as the private character
that lies a million, in base sixteen, above it; nothing else uses these characters.
-/

namespace Curfew.Text.Surrogate

/-- How far the character that stands for a surrogate lies above it. -/
def distance : Nat := 0x100000

def isHigh (code : Nat) : Bool := 0xd800 ≤ code && code < 0xdc00

def isLow (code : Nat) : Bool := 0xdc00 ≤ code && code < 0xe000

/-- The surrogate that a character stands for. -/
def code? (c : Char) : Option Nat :=
  let code := c.toNat - distance
  if isHigh code || isLow code then some code else none

/-- Whether a character stands for a surrogate. -/
def isHeld (c : Char) : Bool := (code? c).isSome

/-- Whether a text holds a surrogate. -/
def isIn (s : String) : Bool := s.toList.any isHeld

/-- The character of a code point, which may be a surrogate. -/
def character (code : Nat) : Char :=
  Char.ofNat (if isHigh code || isLow code then code + distance else code)

/-- The code point of a character, which may stand for a surrogate. -/
def codePoint (c : Char) : Nat := (code? c).getD c.toNat

/-- The character of a pair. -/
def ofPair (high low : Nat) : Char :=
  Char.ofNat (0x10000 + (high - 0xd800) * 0x400 + (low - 0xdc00))

end Curfew.Text.Surrogate
