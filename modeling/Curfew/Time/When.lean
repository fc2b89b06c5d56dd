import Curfew.Time.Calendar

/-!
Points in time as a config names them.

A stamp is a wall time with the offset of its zone and so denotes an instant. A config may also name
a bare day or a wall time without a zone; both are read as universal time.
-/

namespace Curfew

/-- How far a zone's wall time is ahead of universal time, in microseconds: less than a day. -/
structure Offset where
  micros : Int
  belowDay : -(microsPerDay : Int) < micros ∧ micros < microsPerDay
deriving DecidableEq

namespace Offset

def utc : Offset := ⟨0, by decide⟩

def ofMicros? (micros : Int) : Option Offset :=
  if h : -(microsPerDay : Int) < micros ∧ micros < microsPerDay then some ⟨micros, h⟩ else none

/-- The offset as a sign, hours and minutes, and what is left of a minute if anything is. -/
def chars (o : Offset) : List Char :=
  let size := o.micros.natAbs
  let seconds := size / 1000000
  let rest := seconds % 60
  (if o.micros < 0 then '-' else '+') :: Text.paddedDigits 10 2 (seconds / 3600) ++
    ':' :: Text.paddedDigits 10 2 (seconds / 60 % 60) ++
    if rest = 0 && size % 1000000 = 0 then []
    else ':' :: Text.paddedDigits 10 2 rest ++ WallTime.fractionChars (size % 1000000)

end Offset

/-- A wall time in a zone. -/
structure Stamp where
  wall : WallTime
  offset : Offset
deriving DecidableEq

namespace Stamp

/-- The instant that a stamp denotes, in microseconds of universal time since the calendar began. -/
def instant (s : Stamp) : Int := s.wall.micros - s.offset.micros

/-- The stamp in universal time that shows a wall time. -/
def utc (w : WallTime) : Stamp := ⟨w, .utc⟩

/-- The stamp whose wall time is later by some microseconds, in the same zone. -/
def shift? (s : Stamp) (micros : Int) : Option Stamp :=
  (s.wall.shift? micros).map fun wall => { s with wall }

/-- The stamp of the same instant in universal time. -/
def toUtc? (s : Stamp) : Option Stamp := (s.wall.shift? (-s.offset.micros)).map utc

def chars (separator : Char) (s : Stamp) : List Char := s.wall.chars separator ++ s.offset.chars

/-- The stamp as one word. -/
def text (s : Stamp) : String := String.ofList (s.chars 'T')

end Stamp

/-- A point in time as a config names it. -/
inductive When where
  | day (date : Date)
  | wall (time : WallTime)
  | stamp (stamp : Stamp)
deriving DecidableEq

namespace When

/-- The stamp that a named time denotes: without a zone it is universal time, a day its midnight. -/
def stampOf : When → Stamp
  | .day d => .utc (.midnight d)
  | .wall w => .utc w
  | .stamp s => s

/-- Two names of the same kind for the same time; stamps are compared as instants. -/
def same : When → When → Bool
  | .day a, .day b => a == b
  | .wall a, .wall b => a == b
  | .stamp a, .stamp b => a.instant == b.instant
  | _, _ => false

/-- A named time as text, with a character between the day and the time of day. -/
def chars (separator : Char) : When → List Char
  | .day d => d.chars
  | .wall w => w.chars separator
  | .stamp s => s.chars separator

/-- A named time as two words, the day and the time of day. -/
def text (t : When) : String := String.ofList (t.chars ' ')

end When

/-! ### Reading -/

namespace When

/-- So many ASCII digits at the start of a text, as a number, and what follows. -/
def number? (count : Nat) (cs : List Char) : Option (Nat × List Char) :=
  let ds := cs.take count
  if ds.length = count && ds.all Char.isDigit then
    some (ds.foldl (fun n c => n * 10 + (c.toNat - '0'.toNat)) 0, cs.drop count)
  else none

/-- A given character at the start of a text, and what follows. -/
def expect? (c : Char) : List Char → Option (List Char)
  | d :: cs => if c = d then some cs else none
  | [] => none

/-- The microseconds of a decimal fraction, of which six digits count. -/
def fraction (ds : List Char) : Nat :=
  (ds ++ List.replicate 6 '0').take 6 |>.foldl (fun n c => n * 10 + (c.toNat - '0'.toNat)) 0

/-- A fraction behind a point, zero when there is none. -/
def fractionAt (cs : List Char) : Nat × List Char :=
  match cs with
  | '.' :: rest => (fraction (rest.takeWhile Char.isDigit), rest.dropWhile Char.isDigit)
  | _ => (0, cs)

/-- Hours and minutes, and seconds with a fraction if a colon follows, in microseconds. -/
def timeOfDay? (cs : List Char) : Option (Nat × List Char) := do
  let (hour, cs) ← number? 2 cs
  let cs ← expect? ':' cs
  let (minute, cs) ← number? 2 cs
  match expect? ':' cs with
  | none => some ((hour * 60 + minute) * 60000000, cs)
  | some cs =>
    let (second, cs) ← number? 2 cs
    let (micro, cs) := fractionAt cs
    some (((hour * 60 + minute) * 60 + second) * 1000000 + micro, cs)

/-- An offset that ends a text, `some none` when the text has ended. -/
def zone? (cs : List Char) : Option (Option Offset) :=
  match cs with
  | [] => some none
  | ['Z'] => some (some .utc)
  | sign :: rest =>
    match timeOfDay? rest with
    | some (micros, []) =>
      if sign = '+' then (Offset.ofMicros? micros).map some
      else if sign = '-' then (Offset.ofMicros? (-(micros : Int))).map some
      else none
    | _ => none

/-- The day that stands in front of a text in the order year, month, day. -/
def dateAt? (cs : List Char) : Option (Date × List Char) := do
  let (year, cs) ← number? 4 cs
  let cs ← expect? '-' cs
  let (month, cs) ← number? 2 cs
  let cs ← expect? '-' cs
  let (dayOfMonth, cs) ← number? 2 cs
  (Date.ofCivil? year month dayOfMonth).map (·, cs)

/-- The time that a text names in the form that `chars` writes. -/
def ofChars? (cs : List Char) : Option When := do
  let (date, rest) ← dateAt? cs
  match rest with
  | [] => some (.day date)
  | _ :: rest =>
    let (micros, rest) ← timeOfDay? rest
    let wall ← (WallTime.midnight date).shift? micros
    match ← zone? rest with
    | none => some (.wall wall)
    | some offset => some (.stamp ⟨wall, offset⟩)

end When

end Curfew
