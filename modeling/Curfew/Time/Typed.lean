import Curfew.Text.Blank
import Curfew.Time.Calendar

/-!
Times as people type them: a day, alone or with a time of day behind it.

Leading zeros may be left out and digits may be of any script. A number is read with as many digits as
its place allows; fewer are taken only where what follows does not fit otherwise.
-/

namespace Curfew.Typed

/-- The ways to read the beginning of a text, the preferred one first, each with what follows. -/
abbrev Readings (α : Type) := List (α × List Char)

/-! ### Numbers -/

/-- A class of characters that may stand for one digit. -/
abbrev Class := Char → Bool

def between (first last : Char) : Class := fun c => first ≤ c && c ≤ last

def anyDigit : Class := fun c => (Text.decimalDigit? c).isSome

/-- The number that the classes in turn read, a blank counting for nothing. -/
def digitsAt (classes : List Class) (cs : List Char) : Readings Nat :=
  let ds := cs.take classes.length
  if ds.length = classes.length && (classes.zip ds).all fun p => p.1 p.2 then
    [(ds.foldl (fun n d => n * 10 + (Text.decimalDigit? d).getD 0) 0, cs.drop classes.length)]
  else []

/-- The readings of alternatives in their order. -/
def anyOf (alternatives : List (List Class)) (cs : List Char) : Readings Nat :=
  alternatives.flatMap fun classes => digitsAt classes cs

def year : List Char → Readings Nat := anyOf [[anyDigit, anyDigit, anyDigit, anyDigit]]

def month : List Char → Readings Nat :=
  anyOf [[between '1' '1', between '0' '2'], [between '0' '0', between '1' '9'], [between '1' '9']]

def day : List Char → Readings Nat :=
  anyOf [[between '3' '3', between '0' '1'], [between '1' '2', anyDigit],
    [between '0' '0', between '1' '9'], [between '1' '9'], [between ' ' ' ', between '1' '9']]

def hour : List Char → Readings Nat :=
  anyOf [[between '2' '2', between '0' '3'], [between '0' '1', anyDigit], [anyDigit]]

def minute : List Char → Readings Nat := anyOf [[between '0' '5', anyDigit], [anyDigit]]

/-- Seconds may be leap seconds here; no clock shows them. -/
def second : List Char → Readings Nat :=
  anyOf [[between '6' '6', between '0' '1'], [between '0' '5', anyDigit], [anyDigit]]

/-! ### Separators -/

def exactly (c : Char) (cs : List Char) : Readings Unit :=
  match cs with
  | d :: rest => if c = d then [((), rest)] else []
  | [] => []

/-- The letter between a day and a time of day, in either case. -/
def letter (cs : List Char) : Readings Unit := exactly 'T' cs ++ exactly 't' cs

def blanks (cs : List Char) : Readings Unit :=
  match cs with
  | c :: rest => if Text.isBlank c then [((), rest.dropWhile Text.isBlank)] else []
  | [] => []

/-! ### Times -/

/-- Three numbers with the same separator between them. -/
def triple (separator : Char) (first second third : List Char → Readings Nat) (cs : List Char) :
    Readings (Nat × Nat × Nat) :=
  (first cs).flatMap fun (a, cs) => (exactly separator cs).flatMap fun (_, cs) =>
    (second cs).flatMap fun (b, cs) => (exactly separator cs).flatMap fun (_, cs) =>
      (third cs).map fun (c, cs) => ((a, b, c), cs)

def date : List Char → Readings (Nat × Nat × Nat) := triple '-' year month day

def timeOfDay : List Char → Readings (Nat × Nat × Nat) := triple ':' hour minute second

/-- A day and a time of day with a separator. -/
def dateAndTime (separator : List Char → Readings Unit) (cs : List Char) :
    Readings ((Nat × Nat × Nat) × (Nat × Nat × Nat)) :=
  (date cs).flatMap fun (d, cs) => (separator cs).flatMap fun (_, cs) =>
    (timeOfDay cs).map fun (t, cs) => ((d, t), cs)

/-- The preferred reading, if it reads the whole text. -/
def whole? {α : Type} (readings : Readings α) : Option α :=
  match readings with
  | (a, []) :: _ => some a
  | _ => none

/-- The wall time of numbers that were read. -/
def wallTime? (d t : Nat × Nat × Nat) : Option WallTime := do
  WallTime.ofClock? (← Date.ofCivil? d.1 d.2.1 d.2.2) t.1 t.2.1 t.2.2 0

/-- The wall time that a text stands for; a day alone stands for its midnight. -/
def ofText? (s : String) : Option WallTime :=
  let cs := s.toList
  ((whole? (date cs)).bind fun d => wallTime? d (0, 0, 0)).or <|
    ((whole? (dateAndTime letter cs)).bind fun (d, t) => wallTime? d t).or <|
      (whole? (dateAndTime blanks cs)).bind fun (d, t) => wallTime? d t

end Curfew.Typed
