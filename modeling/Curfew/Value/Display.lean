import Curfew.Value.Basic
import Curfew.Number.Shortest
import Curfew.Text.Quoted

/-!
Values as text.

A value has a literal, in which texts are quoted and times are spelled as constructions, and a plain
text, which differs from it for texts and times alone.
-/

namespace Curfew.Value

/-- The name of the kind of a value in messages. -/
def kindName : Value → String
  | .null => "NoneType"
  | .bool _ => "bool"
  | .int _ => "int"
  | .float _ => "float"
  | .text _ => "str"
  | .bytes _ => "bytes"
  | .time (.day _) => "date"
  | .time _ => "datetime"
  | .list _ => "list"
  | .tuple _ => "tuple"
  | .set _ => "set"
  | .map _ => "dict"

/-! ### Literals of times -/

def commaSpace : List Char := [',', ' ']

/-- A construction: its name and its arguments. -/
def call (name : String) (arguments : List (List Char)) : List Char :=
  name.toList ++ '(' :: Text.joinWith commaSpace arguments ++ [')']

def natChars (n : Nat) : List Char := Text.digits 10 n

def dateLiteral (d : Date) : List Char :=
  let (year, month, dayOfMonth) := d.civil
  call "datetime.date" [natChars year, natChars month, natChars dayOfMonth]

/-- A span of less than a day, as whole days, seconds and microseconds of which only the first may be
negative; what is zero is left out. -/
def spanLiteral (micros : Int) : List Char :=
  let days := micros / microsPerDay
  let rest := (micros % microsPerDay).toNat
  let part (name : String) (i : Int) : List (List Char) :=
    if i = 0 then [] else [name.toList ++ '=' :: Text.decimalChars i]
  let parts := part "days" days ++ part "seconds" (rest / 1000000 : Nat) ++
    part "microseconds" (rest % 1000000 : Nat)
  call "datetime.timedelta" (if parts.isEmpty then [['0']] else parts)

def zoneLiteral (o : Offset) : List Char :=
  if o.micros = 0 then "datetime.timezone.utc".toList
  else call "datetime.timezone" [spanLiteral o.micros]

/-- The numbers of a wall time; seconds and microseconds only up to the last that is not zero. -/
def wallArguments (w : WallTime) : List (List Char) :=
  let (year, month, dayOfMonth) := w.date.civil
  let (hour, minute, second, micro) := w.clock
  let always := [year, month, dayOfMonth, hour, minute]
  let more := if micro ≠ 0 then [second, micro] else if second ≠ 0 then [second] else []
  (always ++ more).map natChars

def timeLiteral : When → List Char
  | .day d => dateLiteral d
  | .wall w => call "datetime.datetime" (wallArguments w)
  | .stamp s =>
    call "datetime.datetime" (wallArguments s.wall ++ ["tzinfo=".toList ++ zoneLiteral s.offset])

/-! ### Literals and plain text -/

/-- Pieces between brackets, with commas between them. -/
def bracketed (opening closing : Char) (pieces : List (List Char)) : List Char :=
  opening :: Text.joinWith commaSpace pieces ++ [closing]

mutual

def literal : Value → List Char
  | .null => "None".toList
  | .bool b => if b then "True".toList else "False".toList
  | .int i => Text.decimalChars i
  | .float x => x.chars
  | .text s => Text.quoteChars s.toList
  | .bytes bs => Text.quoteBytes bs
  | .time t => timeLiteral t
  | .list items => bracketed '[' ']' (literals items)
  | .tuple [item] => '(' :: literal item ++ [',', ')']
  | .tuple items => bracketed '(' ')' (literals items)
  | .set [] => "set()".toList
  | .set items => bracketed '\x7b' '\x7d' (literals items)
  | .map entries => bracketed '\x7b' '\x7d' (entryLiterals entries)

def literals : List Value → List (List Char)
  | [] => []
  | item :: items => literal item :: literals items

def entryLiterals : List (Value × Value) → List (List Char)
  | [] => []
  | (key, value) :: entries => (literal key ++ ':' :: ' ' :: literal value) :: entryLiterals entries

end

/-- The plain text of a value. -/
def plain : Value → List Char
  | .text s => s.toList
  | .time t => t.chars ' '
  | v => literal v

end Curfew.Value
