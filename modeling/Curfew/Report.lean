import Curfew.Mode.Basic
import Curfew.Path
import Curfew.Value.Basic

/-!
What a run changed or would change.

The numbers of a change are kept as they are given; a mode is shown by its low twelve bits, but two
modes that differ in any bit are different.
-/

namespace Curfew

/-- A change to the mode or the group of one entry; what did not change is the same twice. -/
structure Change where
  path : Path
  oldMode : Int
  newMode : Int
  oldGid : Int
  newGid : Int
  group : String
  isDryRun : Bool
deriving DecidableEq

structure Report where
  changes : List Change
  visited : Int
  isDryRun : Bool
deriving DecidableEq

namespace Change

def modeChanged (c : Change) : Bool := c.oldMode != c.newMode

def groupChanged (c : Change) : Bool := c.oldGid != c.newGid

/-- The change as a record. -/
def entries (c : Change) : Entries :=
  [(.text "event", .text "permission_change"),
   (.text "path", .text c.path.text),
   (.text "old_mode", .text (Mode.ofInt c.oldMode).text),
   (.text "new_mode", .text (Mode.ofInt c.newMode).text),
   (.text "old_gid", .int c.oldGid),
   (.text "new_gid", .int c.newGid),
   (.text "group", .text c.group),
   (.text "dry_run", .bool c.isDryRun)]

end Change

namespace Report

def empty (isDryRun : Bool) : Report := { changes := [], visited := 0, isDryRun }

def modeChanges (r : Report) : Nat := r.changes.countP Change.modeChanged

def groupChanges (r : Report) : Nat := r.changes.countP Change.groupChanged

/-- The counts of a report as a record. -/
def summary (r : Report) : Entries :=
  [(.text "visited", .int r.visited),
   (.text "changes", .int r.changes.length),
   (.text "mode_changes", .int r.modeChanges),
   (.text "group_changes", .int r.groupChanges),
   (.text "dry_run", .bool r.isDryRun)]

end Report

end Curfew
