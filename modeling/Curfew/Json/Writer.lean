import Curfew.Value.Display

/-!
Values written as JSON on one line.

The text is ASCII: all else is escaped, as are quotes, backslashes and control characters, so no line
break stands in it. What JSON has no form for is written as its plain text. Keys are texts, or are
written as what they would be as values; other keys are refused.
-/

namespace Curfew.Json

/-- A key that no object can have, by its kind. -/
structure BadKey where
  kind : String
deriving DecidableEq

/-! ### Texts -/

/-- A unit of sixteen bits behind a backslash. -/
def unitEscape (n : Nat) : List Char := '\\' :: 'u' :: Text.paddedDigits 16 4 n

/-- A character between quotes; one beyond sixteen bits is written as a pair of units. -/
def escapeChar (c : Char) : List Char :=
  let n := c.toNat
  if c = '"' then ['\\', '"']
  else if c = '\\' then ['\\', '\\']
  else if c = '\n' then ['\\', 'n']
  else if c = '\r' then ['\\', 'r']
  else if c = '\t' then ['\\', 't']
  else if c = '\x08' then ['\\', 'b']
  else if c = '\x0c' then ['\\', 'f']
  else if 0x20 ≤ n ∧ n < 0x7f then [c]
  else if n < 0x10000 then unitEscape n
  else
    unitEscape (0xd800 + (n - 0x10000) / 0x400) ++ unitEscape (0xdc00 + (n - 0x10000) % 0x400)

def textChars (cs : List Char) : List Char := '"' :: cs.flatMap escapeChar ++ ['"']

/-! ### Values -/

/-- A double; the special ones have names of their own. -/
def floatChars (x : Binary64) : List Char :=
  let cs := x.chars
  if cs = "nan".toList then "NaN".toList
  else if cs = "inf".toList then "Infinity".toList
  else if cs = "-inf".toList then "-Infinity".toList
  else cs

/-- The text of a key. -/
def keyChars : Value → Except BadKey (List Char)
  | .text s => .ok s.toList
  | .null => .ok "null".toList
  | .bool true => .ok "true".toList
  | .bool false => .ok "false".toList
  | .int i => .ok (Text.decimalChars i)
  | .float x => .ok (floatChars x)
  | v => .error ⟨v.kindName⟩

mutual

/-- The text of a value. -/
def chars : Value → Except BadKey (List Char)
  | .null => .ok "null".toList
  | .bool true => .ok "true".toList
  | .bool false => .ok "false".toList
  | .int i => .ok (Text.decimalChars i)
  | .float x => .ok (floatChars x)
  | .text s => .ok (textChars s.toList)
  | .list items => do return Value.bracketed '[' ']' (← itemChars items)
  | .tuple items => do return Value.bracketed '[' ']' (← itemChars items)
  | .map entries => do return Value.bracketed '\x7b' '\x7d' (← entryChars entries)
  | v => .ok (textChars v.plain)

def itemChars : List Value → Except BadKey (List (List Char))
  | [] => .ok []
  | item :: items => do
    let first ← chars item
    return first :: (← itemChars items)

def entryChars : List (Value × Value) → Except BadKey (List (List Char))
  | [] => .ok []
  | (key, value) :: entries => do
    let name ← keyChars key
    let first ← chars value
    return (textChars name ++ ':' :: ' ' :: first) :: (← entryChars entries)

end

end Curfew.Json
