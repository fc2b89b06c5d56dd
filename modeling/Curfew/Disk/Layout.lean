import Curfew.Host

/-!
Laying out a disk: entries put in place, moved and listed.

A fault leaves what was done before it in place.
-/

namespace Curfew

/-- What is to be put in place. -/
inductive Item where
  | file (content : List UInt8)
  | directory
  | link (target : String)

/-- Work on a host that may stop with a fault. -/
abbrev Work := EStateM DiskFault Host

namespace Host

/-- Makes a change of the host part of the work. -/
def work (f : Host → Except DiskFault Host) : Work Unit := do
  match f (← get) with
  | .ok h => set h
  | .error fault => throw fault

/-- Makes a file with a content, which replaces that of a file that is there. -/
def writeFile (path : Path) (content : List UInt8) (h : Host) : Except DiskFault Host := do
  match ← h.resolve path true with
  | .missing directory name =>
    let attributes := h.newAttributes directory fileMode false
    return { h with disk := h.disk.put directory name (.file attributes content) }
  | .found location =>
    match h.disk.get? location with
    | some (.file _ _) =>
      return h.changeAt location fun entry =>
        match entry with
        | .file a _ => .file a content
        | other => other
    | _ => throw (.system .isDirectory path)

/-- Makes a link where nothing is yet. -/
def makeLink (path : Path) (target : String) (h : Host) : Except DiskFault Host := do
  match ← h.resolve path false with
  | .found _ => throw (.system .exists path)
  | .missing directory name =>
    return { h with disk := h.disk.put directory name (.link 0 target) }

/-- Makes an item where its directory is there. -/
def make (path : Path) : Item → Host → Except DiskFault Host
  | .file content, h => writeFile path content h
  | .directory, h => h.ensureDirectory path
  | .link target, h => makeLink path target h

/-- Sets the mode of an item that was made; a link has none. -/
def setModeOf (path : Path) (mode : Mode) : Item → Host → Except DiskFault Host
  | .link _, h => .ok h
  | _, h => h.setMode path mode

/-- Puts an item in place, with the directories above it, and sets its group and mode. -/
def install (path : Path) (item : Item) (mode : Mode) (gid : Int) : Work Unit := do
  work fun h => h.makeParents path
  work (make path item)
  work fun h => h.setGroup path gid
  work (setModeOf path mode item)

/-- Takes an entry away, with all below it. -/
def erase (path : Path) (h : Host) : Except DiskFault Host := do
  let location ← h.locate path false
  return { h with disk := h.disk.remove location }

/-- Moves an entry to another path; an entry that is there is replaced. -/
def move (source target : Path) (h : Host) : Except DiskFault Host := do
  let (location, entry) ← h.look source false
  let cleared : Host := { h with disk := h.disk.remove location }
  match ← h.resolve target false with
  | .missing directory name => return { h with disk := cleared.disk.put directory name entry }
  | .found place =>
    match place.getLast? with
    | none => throw (.system .exists target)
    | some name => return { h with disk := cleared.disk.put place.dropLast name entry }

/-- All entries below the working directory with the names that lead to them, parents first. -/
def inventory (h : Host) : List (Path × EntryInfo) :=
  match h.disk.get? h.workingDirectory with
  | some entry => entry.descendants.map fun found => (⟨.working, found.1⟩, found.2.info)
  | none => []

/-- A host with nothing but a working directory. -/
def bare (workingDirectory : Location) (groups : List (String × Nat)) (caller : Caller)
    (zone : Offset) (now : WallTime) : Host :=
  let directory (children : List (String × Entry)) : Entry :=
    .directory { mode := directoryMode, gid := 0 } children
  { disk := workingDirectory.foldr (fun name entry => directory [(name, entry)]) (directory [])
    workingDirectory, groups, caller, zone, now }

end Host

end Curfew
