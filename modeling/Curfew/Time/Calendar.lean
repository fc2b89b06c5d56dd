import Curfew.Text.Numeral

/-!
Days and times of day of the years 1 to 9999.

A day is its number in the calendar and a wall time the microseconds since the calendar began, so
that moving in time is addition; years, months and hours come in only to read and write them.
-/

namespace Curfew

/-! ### Days -/

/-- How many days the calendar has. -/
def Calendar.length : Nat := 3652059

/-- A day of the calendar, counted from the first day of year 1. -/
structure Date where
  ordinal : Nat
  inCalendar : ordinal < Calendar.length
deriving DecidableEq

namespace Calendar

def isLeap (year : Nat) : Bool := year % 4 == 0 && (year % 100 != 0 || year % 400 == 0)

/-- The lengths of the months of a year. -/
def monthLengths (year : Nat) : List Nat :=
  [31, if isLeap year then 29 else 28, 31, 30, 31, 30, 31, 31, 30, 31, 30, 31]

/-- How many days of the calendar lie before a year. -/
def daysBefore (year : Nat) : Nat :=
  let past := year - 1
  365 * past + past / 4 - past / 100 + past / 400

/-- How many days months of the given lengths have together. -/
def totalLength (lengths : List Nat) : Nat := lengths.foldl (fun total length => total + length) 0

/-- The month and the day in it of a day of the year, all counted from one, the last from zero. -/
def monthAndDay : List Nat → Nat → Nat → Nat × Nat
  | [], month, day => (month, day + 1)
  | length :: rest, month, day =>
    if day < length then (month, day + 1) else monthAndDay rest (month + 1) (day - length)

/-- The year of a day: the leap rule repeats every four hundred years. -/
def yearOf (ordinal : Nat) : Nat :=
  let era := ordinal / 146097
  let day := ordinal % 146097
  let century := min (day / 36524) 3
  let day := day - century * 36524
  let four := day / 1461
  let day := day % 1461
  400 * era + 100 * century + 4 * four + min (day / 365) 3 + 1

end Calendar

namespace Date

/-- The day of a year, month and day of the month, if there is one. -/
def ofCivil? (year month day : Nat) : Option Date :=
  match (Calendar.monthLengths year)[month - 1]? with
  | some length =>
    if 1 ≤ year && year ≤ 9999 && 1 ≤ month && 1 ≤ day && day ≤ length then
      let ordinal := Calendar.daysBefore year +
        Calendar.totalLength ((Calendar.monthLengths year).take (month - 1)) + (day - 1)
      if h : ordinal < Calendar.length then some ⟨ordinal, h⟩ else none
    else none
  | none => none

/-- The year, the month and the day of the month. -/
def civil (d : Date) : Nat × Nat × Nat :=
  let year := Calendar.yearOf d.ordinal
  let (month, day) :=
    Calendar.monthAndDay (Calendar.monthLengths year) 1 (d.ordinal - Calendar.daysBefore year)
  (year, month, day)

/-- The day in the order year, month, day. -/
def chars (d : Date) : List Char :=
  let (year, month, day) := d.civil
  Text.paddedDigits 10 4 year ++ '-' :: Text.paddedDigits 10 2 month ++
    '-' :: Text.paddedDigits 10 2 day

end Date

/-! ### Wall times -/

/-- How many microseconds a day has. -/
def microsPerDay : Nat := 86400000000

/-- How many microseconds the calendar has. -/
def Calendar.span : Nat := Calendar.length * microsPerDay

/-- What a calendar and a clock on the wall show, as microseconds since the calendar began. -/
structure WallTime where
  micros : Nat
  inCalendar : micros < Calendar.span
deriving DecidableEq

namespace WallTime

/-- The wall time so many microseconds into the calendar, if it still runs then. -/
def ofMicros? (micros : Int) : Option WallTime :=
  if h : 0 ≤ micros ∧ micros < Calendar.span then some ⟨micros.toNat, by omega⟩ else none

/-- The wall time later by some microseconds, earlier for a negative number. -/
def shift? (w : WallTime) (micros : Int) : Option WallTime := ofMicros? (w.micros + micros)

/-- The first moment of a day. -/
def midnight (d : Date) : WallTime :=
  ⟨d.ordinal * microsPerDay, Nat.mul_lt_mul_of_pos_right d.inCalendar (by decide)⟩

/-- The wall time of a day at an hour, minute, second and microsecond, if the clock shows them. -/
def ofClock? (d : Date) (hour minute second micro : Nat) : Option WallTime :=
  if hour < 24 && minute < 60 && second < 60 && micro < 1000000 then
    (midnight d).shift? (((hour * 60 + minute) * 60 + second) * 1000000 + micro : Nat)
  else none

def date (w : WallTime) : Date :=
  ⟨w.micros / microsPerDay, by
    have := w.inCalendar
    exact Nat.div_lt_of_lt_mul (by simpa [Calendar.span, Nat.mul_comm] using this)⟩

/-- The hour, minute, second and microsecond of the day. -/
def clock (w : WallTime) : Nat × Nat × Nat × Nat :=
  let micros := w.micros % microsPerDay
  let seconds := micros / 1000000
  (seconds / 3600, seconds / 60 % 60, seconds % 60, micros % 1000000)

/-- A microsecond count behind a point, nothing for zero. -/
def fractionChars (micro : Nat) : List Char :=
  if micro = 0 then [] else '.' :: Text.paddedDigits 10 6 micro

/-- The wall time with a letter between the day and the time of day. -/
def chars (separator : Char) (w : WallTime) : List Char :=
  let (hour, minute, second, micro) := w.clock
  w.date.chars ++ separator :: Text.paddedDigits 10 2 hour ++ ':' :: Text.paddedDigits 10 2 minute ++
    ':' :: Text.paddedDigits 10 2 second ++ fractionChars micro

end WallTime

end Curfew
