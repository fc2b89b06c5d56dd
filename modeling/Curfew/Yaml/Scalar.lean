import Curfew.Number.Shortest
import Curfew.Text.Numeral
import Curfew.Value.Basic
import Curfew.Yaml.Base64
import Curfew.Yaml.Cursor
import Curfew.Yaml.Tag

/-!
The values of YAML scalars.

What a text stands for depends on its tag. A tag may be given to any text, so the text need not look
like what the tag says.
-/

namespace Curfew.Yaml.Scalar

/-- Whole numbers in base two, eight, ten, sixteen and, with colons, sixty. -/
def intOf (text : List Char) : Except Fault Int :=
  let number (base : Nat) (cs : List Char) : Except Fault Int :=
    match Text.integer? base cs with
    | some i => .ok i
    | none => .error .badNumeral
  let digits := text.filter (· != '_')
  let signed (i : Int) : Int := if digits.head? = some '-' then -i else i
  match Tag.dropSign digits with
  | [] => .error .emptyNumeral
  | ['0'] => .ok 0
  | '0' :: 'b' :: rest => (number 2 rest).map signed
  | '0' :: 'x' :: rest => (number 16 rest).map signed
  | '0' :: rest => (number 8 ('0' :: rest)).map signed
  | rest =>
    if rest.contains ':' then do
      let places ← (Text.splitAt ':' rest).mapM (number 10)
      return signed (places.foldl (fun n place => n * 60 + place) 0)
    else (number 10 rest).map signed

/-- The sum of the places of base sixty, from the last. -/
def sexagesimalSum : List Binary64 → Nat → Binary64 → Except Fault Binary64
  | [], _, sum => .ok sum
  | place :: places, weight, sum =>
    if weight < Nat.pow 2 1024 - Nat.pow 2 970 then
      sexagesimalSum places (weight * 60) (sum.add (place.mul (.ofInt weight)))
    else .error .hugeNumeral

/-- Numbers with a point, the special ones among them. -/
def floatOf (text : List Char) : Except Fault Binary64 :=
  let number (cs : List Char) : Except Fault Binary64 :=
    match Binary64.ofChars? cs with
    | some x => .ok x
    | none => .error .badNumeral
  let digits := (text.filter (· != '_')).map Char.toLower
  let signed (x : Binary64) : Binary64 := if digits.head? = some '-' then x.negate else x
  if digits.isEmpty then .error .emptyNumeral
  else
    let rest := Tag.dropSign digits
    if rest = ".inf".toList then (number "inf".toList).map signed
    else if rest = ".nan".toList then number "nan".toList
    else if rest.contains ':' then do
      let places ← (Text.splitAt ':' rest).mapM number
      return signed (← sexagesimalSum places.reverse 1 (.ofInt 0))
    else (number rest).map signed

def boolOf (text : List Char) : Except Fault Bool :=
  let word := text.map Char.toLower
  if Tag.isWord ["yes", "true", "on"] word then .ok true
  else if Tag.isWord ["no", "false", "off"] word then .ok false
  else .error .notBool

def bytesOf (text : List Char) : Except Fault (List UInt8) :=
  match if text.all (·.toNat < 0x80) then Base64.decode text else none with
  | some bytes => .ok bytes
  | none => .error .malformed

def timeOf (text : List Char) : Except Fault When :=
  match TimeText.ofChars? (Tag.dropLastBreak text) with
  | none => .error .notTime
  | some t =>
    match t.when? with
    | some time => .ok time
    | none => .error .impossibleTime

/-- The value of a text with a tag. -/
def value (tag : Tag) (text : List Char) : Except Fault Value :=
  match tag with
  | .null => .ok .null
  | .bool => (boolOf text).map .bool
  | .int => (intOf text).map .int
  | .float => (floatOf text).map .float
  | .binary => (bytesOf text).map .bytes
  | .timestamp => (timeOf text).map .time
  | .text => .ok (.text (String.ofList text))
  | _ => .error .malformed

/-- Whether the values of a tag are made of one text. -/
def isTextual (tag : Tag) : Bool :=
  tag = .null || tag = .bool || tag = .int || tag = .float || tag = .binary || tag = .timestamp ||
    tag = .text

/-- Whether a number is the word that spells what is no number. All such words of a document are one
value; what is no number otherwise is a value of its own. -/
def isNotANumberWord (text : List Char) : Bool :=
  Tag.dropSign ((text.filter (· != '_')).map Char.toLower) = ".nan".toList

end Curfew.Yaml.Scalar
