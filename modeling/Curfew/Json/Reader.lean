import Curfew.Number.Shortest
import Curfew.Text.Numeral
import Curfew.Text.Surrogate
import Curfew.Value.Basic

/-!
Values read from JSON.

An object keeps the place of a key's first entry and the value of its last. Control characters must be
escaped; the special doubles may be written by their names.
-/

namespace Curfew.Json

/-- A text is no value in this form. -/
inductive Fault where
  | malformed
deriving DecidableEq

def isSpace (c : Char) : Bool := c == ' ' || c == '\t' || c == '\n' || c == '\r'

def skipSpace (cs : List Char) : List Char := cs.dropWhile isSpace

/-- The text behind a word, if it begins with the word. -/
def after? (word cs : List Char) : Option (List Char) :=
  if cs.take word.length = word then some (cs.drop word.length) else none

/-! ### Texts -/

/-- A unit of sixteen bits in four digits of base sixteen. -/
def unit? (cs : List Char) : Option (Nat × List Char) := do
  let digits ← (cs.take 4).mapM fun c => if c.toNat < 0x80 then Text.digit? 16 c else none
  if digits.length = 4 then some (digits.foldl (fun n d => n * 16 + d) 0, cs.drop 4) else none

/-- The character of a unit, with the second half of its pair if it follows. -/
def unitChar (unit : Nat) (cs : List Char) : Char × List Char :=
  let low? := if Text.Surrogate.isHigh unit then (after? ['\\', 'u'] cs).bind unit? else none
  match low?.filter fun low => Text.Surrogate.isLow low.1 with
  | some (low, rest) => (Text.Surrogate.ofPair unit low, rest)
  | none => (Text.Surrogate.character unit, cs)

/-- The character that a letter behind a backslash stands for. -/
def namedEscape? : Char → Option Char
  | '"' => some '"'
  | '\\' => some '\\'
  | '/' => some '/'
  | 'b' => some '\x08'
  | 'f' => some '\x0c'
  | 'n' => some '\n'
  | 'r' => some '\r'
  | 't' => some '\t'
  | _ => none

/-- A character and what follows it, the first one being behind a backslash. -/
def escaped (cs : List Char) : Except Fault (Char × List Char) :=
  match cs with
  | 'u' :: rest =>
    match unit? rest with
    | some (unit, rest) => .ok (unitChar unit rest)
    | none => .error .malformed
  | c :: rest =>
    match namedEscape? c with
    | some d => .ok (d, rest)
    | none => .error .malformed
  | [] => .error .malformed

/-- The text up to the closing quote. -/
def text : Nat → List Char → Except Fault (List Char × List Char)
  | 0, _ => .error .malformed
  | _, [] => .error .malformed
  | fuel + 1, c :: cs =>
    if c = '"' then .ok ([], cs)
    else if c = '\\' then do
      let (d, cs) ← escaped cs
      let (rest, cs) ← text fuel cs
      return (d :: rest, cs)
    else if c.toNat < 0x20 then .error .malformed
    else do
      let (rest, cs) ← text fuel cs
      return (c :: rest, cs)

/-! ### Numbers -/

/-- The parts of a number: sign, whole digits, a fraction with its point and an exponent with its
letter, both of which may be empty. -/
structure Numeral where
  sign : List Char
  whole : List Char
  fraction : List Char
  exponent : List Char

/-- The digits of a whole number: a lone zero, or no zero in front. -/
def wholeDigits (cs : List Char) : List Char :=
  match cs with
  | '0' :: _ => ['0']
  | _ => cs.takeWhile Char.isDigit

def fractionAt (cs : List Char) : List Char :=
  match cs with
  | '.' :: rest =>
    let digits := rest.takeWhile Char.isDigit
    if digits.isEmpty then [] else '.' :: digits
  | _ => []

def exponentAt (cs : List Char) : List Char :=
  match cs with
  | letter :: rest =>
    if letter = 'e' ∨ letter = 'E' then
      let sign := (rest.take 1).filter fun c => c = '+' ∨ c = '-'
      let digits := (rest.drop sign.length).takeWhile Char.isDigit
      if digits.isEmpty then [] else letter :: sign ++ digits
    else []
  | [] => []

/-- The number at the start of a text, and what follows. -/
def numeral? (cs : List Char) : Option (Numeral × List Char) :=
  let sign := (cs.take 1).filter (· = '-')
  let cs := cs.drop sign.length
  let whole := wholeDigits cs
  if whole.isEmpty then none
  else
    let cs := cs.drop whole.length
    let fraction := fractionAt cs
    let cs := cs.drop fraction.length
    let exponent := exponentAt cs
    some ({ sign, whole, fraction, exponent }, cs.drop exponent.length)

/-- The value of a number; with a fraction or an exponent it is a double. -/
def Numeral.value (n : Numeral) : Except Fault Value :=
  if n.fraction.isEmpty && n.exponent.isEmpty then
    match Text.integer? 10 (n.sign ++ n.whole) with
    | some i => .ok (.int i)
    | none => .error .malformed
  else
    match Binary64.ofChars? (n.sign ++ n.whole ++ n.fraction ++ n.exponent) with
    | some x => .ok (.float x)
    | none => .error .malformed

/-! ### Values -/

/-- The values that are written as words. -/
def words : List (String × Value) :=
  let double (s : String) : Value := ((Binary64.ofChars? s.toList).map Value.float).getD .null
  [("null", .null), ("true", .bool true), ("false", .bool false), ("NaN", double "nan"),
   ("Infinity", double "inf"), ("-Infinity", double "-inf")]

def word? (cs : List Char) : Option (Value × List Char) :=
  words.findSome? fun word => (after? word.1.toList cs).map (word.2, ·)

/-- A value that holds no others. -/
def simple (cs : List Char) : Except Fault (Value × List Char) :=
  match word? cs with
  | some result => .ok result
  | none =>
    match numeral? cs with
    | some (n, rest) => n.value.map (·, rest)
    | none => .error .malformed

mutual

/-- The value at the start of a text. -/
def value : Nat → List Char → Except Fault (Value × List Char)
  | 0, _ => .error .malformed
  | fuel + 1, cs =>
    match cs with
    | '"' :: rest => do
      let (s, rest) ← text fuel rest
      return (.text (String.ofList s), rest)
    | '[' :: rest =>
      match skipSpace rest with
      | ']' :: rest => .ok (.list [], rest)
      | rest => do
        let (items, rest) ← items fuel rest
        return (.list items, rest)
    | '\x7b' :: rest =>
      match skipSpace rest with
      | '\x7d' :: rest => .ok (.map [], rest)
      | rest => do
        let (pairs, rest) ← pairs fuel rest
        return (.map (Value.entriesOf pairs), rest)
    | _ => simple cs

/-- The values of an array up to its end; at least one. -/
def items : Nat → List Char → Except Fault (List Value × List Char)
  | 0, _ => .error .malformed
  | fuel + 1, cs => do
    let (item, rest) ← value fuel cs
    match skipSpace rest with
    | ']' :: rest => return ([item], rest)
    | ',' :: rest =>
      let (more, rest) ← items fuel (skipSpace rest)
      return (item :: more, rest)
    | _ => throw .malformed

/-- The pairs of an object up to its end; at least one. -/
def pairs : Nat → List Char → Except Fault (List (Value × Value) × List Char)
  | 0, _ => .error .malformed
  | fuel + 1, cs =>
    match cs with
    | '"' :: rest => do
      let (key, rest) ← text fuel rest
      match skipSpace rest with
      | ':' :: rest =>
        let (item, rest) ← value fuel (skipSpace rest)
        let pair := (Value.text (String.ofList key), item)
        match skipSpace rest with
        | '\x7d' :: rest => return ([pair], rest)
        | ',' :: rest =>
          let (more, rest) ← pairs fuel (skipSpace rest)
          return (pair :: more, rest)
        | _ => throw .malformed
      | _ => throw .malformed
    | _ => .error .malformed

end

/-- The value of a whole text. -/
def read (cs : List Char) : Except Fault Value := do
  let (v, rest) ← value (2 * cs.length + 2) (skipSpace cs)
  if (skipSpace rest).isEmpty then return v else throw .malformed

end Curfew.Json
