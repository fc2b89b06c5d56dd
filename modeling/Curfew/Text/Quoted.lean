import Curfew.Text.Printable
import Curfew.Text.Digit
import Curfew.Text.Surrogate

/-!
Quoted text: how a text or a byte string is shown in a message.

Single quotes stand around it, unless it holds one and no double quote. The quote and the backslash
are written behind a backslash, and so is what does not print.
-/

namespace Curfew.Text

/-- The quote that needs the fewest escapes, single before double. -/
def quoteFor (cs : List Char) : Char :=
  if cs.contains '\'' && !cs.contains '"' then '"' else '\''

/-- A code point behind a backslash, in the shortest of the forms with two, four and eight digits. -/
def hexEscape (n : Nat) : List Char :=
  if n < 0x100 then '\\' :: 'x' :: paddedDigits 16 2 n
  else if n < 0x10000 then '\\' :: 'u' :: paddedDigits 16 4 n
  else '\\' :: 'U' :: paddedDigits 16 8 n

/-- One character between the given quotes. -/
def escapeChar (quote c : Char) : List Char :=
  if c = quote || c = '\\' then ['\\', c]
  else if c = '\t' then ['\\', 't']
  else if c = '\n' then ['\\', 'n']
  else if c = '\r' then ['\\', 'r']
  else if isPrintable c then [c]
  else hexEscape (Surrogate.codePoint c)

/-- A text in quotes. -/
def quoteChars (cs : List Char) : List Char :=
  let quote := quoteFor cs
  quote :: cs.flatMap (escapeChar quote) ++ [quote]

def quote (s : String) : String := String.ofList (quoteChars s.toList)

/-- One byte between the given quotes: only the visible half of ASCII shows as itself. -/
def escapeByte (quote : Char) (b : UInt8) : List Char :=
  if b.toNat < 0x7f then escapeChar quote (Char.ofNat b.toNat) else hexEscape b.toNat

/-- A byte string in quotes, behind a letter that tells it from a text. -/
def quoteBytes (bs : List UInt8) : List Char :=
  let quote := quoteFor (bs.map fun b => Char.ofNat b.toNat)
  'b' :: quote :: bs.flatMap (escapeByte quote) ++ [quote]

end Curfew.Text
