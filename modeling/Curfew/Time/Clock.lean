import Curfew.Time.When

/-!
The frozen "now" of a run.

A clock is captured once, so that every check of a run is made at one instant. It holds the offset of
the local zone beside the instant.
-/

namespace Curfew

/-- The instant a run is evaluated at, with the local zone's offset in microseconds. -/
structure Clock where
  instant : Stamp
  utcOffset : Int
deriving DecidableEq

inductive ClockFault where
  /-- The instant has no zone. -/
  | withoutZone
  /-- A wall time is too near the end of the calendar to be read as local time. -/
  | unreadable
  /-- The calendar ends before the time that is needed, or the offset is no duration. -/
  | outOfCalendar
deriving DecidableEq

namespace ClockFault

/-- The text of a fault that has one. -/
def message? : ClockFault → Option String
  | .withoutZone => some "ReferenceClock.instant must be timezone-aware."
  | _ => none

end ClockFault

namespace Clock

/-- How many days a duration may span. -/
def mostDays : Nat := 999999999

/-- Whether microseconds are a duration: at most so many whole days, either way. -/
def isDuration (micros : Int) : Bool :=
  -(mostDays * microsPerDay : Int) ≤ micros && micros < ((mostDays + 1) * microsPerDay : Int)

/-- The clock at a named instant, which must be a stamp. -/
def of? (time : When) (utcOffset : Int) : Except ClockFault Clock :=
  if !isDuration utcOffset then .error .outOfCalendar
  else match time with
    | .stamp instant => .ok ⟨instant, utcOffset⟩
    | _ => .error .withoutZone

/-- The stamp of a wall time in the local zone. Finding it looks a day back, for an hour that a
change of the zone's offset shows twice. -/
def localStamp? (zone : Offset) (wall : WallTime) : Except ClockFault Stamp :=
  match wall.shift? zone.micros, wall.shift? (-(microsPerDay : Int)) with
  | some _, some _ => .ok ⟨wall, zone⟩
  | _, _ => .error .unreadable

/-- The clock at an instant on a host of the given zone; a wall time is local time. -/
def freeze (zone : Offset) (time : When) : Except ClockFault Clock := do
  let stamp ← match time with
    | .stamp s => pure s
    | .wall w => localStamp? zone w
    | .day d => localStamp? zone (.midnight d)
  match stamp.toUtc? with
  | none => .error .outOfCalendar
  | some universal =>
    if (universal.wall.shift? zone.micros).isNone then .error .outOfCalendar
    else .ok ⟨universal, zone.micros⟩

end Clock

end Curfew
