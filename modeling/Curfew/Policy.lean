import Curfew.Config.ModeSpec
import Curfew.Time.Clock

/-!
Policies: mode expressions with the time they take effect.

Policies are compared by that time alone. The default policy of a node takes effect at the epoch, so
it comes before every deadline after it.
-/

namespace Curfew

structure Policy where
  timestamp : Stamp
  dirMode : String
  fileMode : String
deriving DecidableEq

namespace Policy

/-- The first midnight of 1970 in universal time, when default policies take effect. -/
def epoch : Stamp := .utc (.midnight ⟨719162, by decide⟩)

def ofSpec (timestamp : Stamp) (spec : ModeSpec) : Policy :=
  { timestamp, dirMode := spec.dir, fileMode := spec.file }

/-- The policy of a dated key. -/
def dated (date : When) (spec : ModeSpec) : Policy := ofSpec date.stampOf spec

/-- The policy that always holds. -/
def default (spec : ModeSpec) : Policy := ofSpec epoch spec

/-- The instant a policy takes effect, in microseconds. -/
def instant (p : Policy) : Int := p.timestamp.instant

/-- Whether a policy's time has passed, its zone being moved by the clock's local offset; `none` when
that leaves the calendar. -/
def isEligible? (p : Policy) (clock : Clock) : Option Bool :=
  (p.timestamp.shift? (-clock.utcOffset)).map fun moved => moved.instant ≤ clock.instant.instant

/-- The expression for a directory or for anything else. -/
def modeFor (p : Policy) (isDirectory : Bool) : String := if isDirectory then p.dirMode else p.fileMode

/-- The first of the policies with the smallest instant. -/
def earliest : List Policy → Option Policy
  | [] => none
  | p :: ps => some (ps.foldl (fun best q => if q.instant < best.instant then q else best) p)

/-- The first of the policies with the largest instant. -/
def latest : List Policy → Option Policy
  | [] => none
  | p :: ps => some (ps.foldl (fun best q => if best.instant < q.instant then q else best) p)

/-- The policies by time; those of one time keep their order. -/
def sort (ps : List Policy) : List Policy := ps.mergeSort fun p q => p.instant ≤ q.instant

end Policy

end Curfew
