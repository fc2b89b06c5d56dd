import Curfew.Time.When
import Curfew.Yaml.Cursor

/-!
Times as YAML spells them.

A time is a day, or a day with a time of day, which may have a fraction and a zone. Days and hours may
be written with one digit, and blanks may stand in front of the time of day and of the zone.
-/

namespace Curfew.Yaml

/-- A zone as it is written: universal time, or a sign with hours and minutes. -/
inductive ZoneText where
  | universal
  | ahead (isBehind : Bool) (hours : Nat) (minutes : Nat)
deriving DecidableEq

/-- A time of day as it is written. -/
structure ClockText where
  hour : Nat
  minute : Nat
  second : Nat
  fraction : List Char
  zone : Option ZoneText
deriving DecidableEq

/-- A time as it is written, whether or not the calendar has it. -/
structure TimeText where
  year : Nat
  month : Nat
  dayOfMonth : Nat
  /-- Whether month and day are written with two digits each. -/
  isPadded : Bool
  clock : Option ClockText
deriving DecidableEq

namespace TimeText

def decimalValue (digits : List Char) : Nat :=
  digits.foldl (fun n d => n * 10 + (d.toNat - '0'.toNat)) 0

/-- The digits at the start of a text, at most so many of them. -/
def digitsAt (most : Nat) (cs : List Char) : List Char := (cs.take most).takeWhile Char.isDigit

/-- A number of one or two digits, how many they are, and what follows. -/
def shortNumber? (cs : List Char) : Option (Nat × Nat × List Char) :=
  let digits := digitsAt 2 cs
  if digits.isEmpty then none
  else some (decimalValue digits, digits.length, cs.drop digits.length)

def skipBlanks (cs : List Char) : List Char := cs.dropWhile isTabOrSpace

/-- A zone that ends a text; `some none` where the text has ended. -/
def zone? (cs : List Char) : Option (Option ZoneText) :=
  if cs.isEmpty then some none
  else match skipBlanks cs with
    | ['Z'] => some (some .universal)
    | sign :: rest => do
      if sign ≠ '+' && sign ≠ '-' then failure
      let (hours, _, rest) ← shortNumber? rest
      let minutes ← match rest with
        | [] => pure 0
        | _ => do
          let (minutes, rest) ← When.number? 2 (← When.expect? ':' rest)
          if rest.isEmpty then pure minutes else failure
      some (some (.ahead (sign == '-') hours minutes))
    | [] => none

/-- A time of day that ends a text. -/
def clock? (cs : List Char) : Option ClockText := do
  let (hour, _, cs) ← shortNumber? cs
  let (minute, cs) ← When.number? 2 (← When.expect? ':' cs)
  let (second, cs) ← When.number? 2 (← When.expect? ':' cs)
  let (fraction, cs) := match cs with
    | '.' :: rest => (rest.takeWhile Char.isDigit, rest.dropWhile Char.isDigit)
    | _ => ([], cs)
  let zone ← zone? cs
  return { hour, minute, second, fraction, zone }

/-- The time of day behind a day; `some none` where the text has ended. -/
def clockAfter? (cs : List Char) : Option (Option ClockText) :=
  match cs with
  | [] => some none
  | c :: rest =>
    if c == 't' || c == 'T' then (clock? rest).map some
    else if isTabOrSpace c then (clock? (skipBlanks rest)).map some
    else none

/-- The time that a text spells. -/
def ofChars? (cs : List Char) : Option TimeText := do
  let (year, cs) ← When.number? 4 cs
  let (month, monthDigits, cs) ← shortNumber? (← When.expect? '-' cs)
  let (dayOfMonth, dayDigits, cs) ← shortNumber? (← When.expect? '-' cs)
  let clock ← clockAfter? cs
  return { year, month, dayOfMonth, isPadded := monthDigits = 2 && dayDigits = 2, clock }

/-- Whether a time is written such that it needs no tag. -/
def isPlain (t : TimeText) : Bool := t.clock.isSome || t.isPadded

/-- The offset of a zone, if it is less than a day. -/
def offset? : ZoneText → Option Offset
  | .universal => some .utc
  | .ahead isBehind hours minutes =>
    let micros := ((hours * 60 + minutes) * 60000000 : Nat)
    Offset.ofMicros? (if isBehind then -(micros : Int) else micros)

/-- The time, if the calendar has it. -/
def when? (t : TimeText) : Option When := do
  match t.clock with
  | none => (Date.ofCivil? t.year t.month t.dayOfMonth).map .day
  | some clock =>
    let offset ← match clock.zone with
      | none => pure none
      | some zone => (offset? zone).map some
    let date ← Date.ofCivil? t.year t.month t.dayOfMonth
    let wall ← WallTime.ofClock? date clock.hour clock.minute clock.second
      (When.fraction clock.fraction)
    return match offset with
      | none => .wall wall
      | some offset => .stamp ⟨wall, offset⟩

end TimeText

end Curfew.Yaml
