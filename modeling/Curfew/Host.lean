import Curfew.Disk.Resolve
import Curfew.Notice
import Curfew.Time.When

/-!
The host that a run works on: its disk, its groups and its clock.

Links are looked at and never followed by the operations on one entry, except that a mode set through
a path goes to the entry that the path leads to.
-/

namespace Curfew

/-- On whose behalf a run works: who may set any group, or only groups of their own. -/
structure Caller where
  mayChangeGroups : Bool
  groups : List Nat
deriving DecidableEq

structure Host where
  disk : Entry
  workingDirectory : Location
  groups : List (String × Nat)
  caller : Caller
  /-- The local zone. -/
  zone : Offset
  /-- The time of day in universal time. -/
  now : WallTime

namespace Host

/-- The working directory as a path. -/
def workingPath (h : Host) : Path := { root := .top, names := h.workingDirectory }

/-- The path from the top, by its text alone. -/
def absolute (h : Host) (path : Path) : Path := path.absolute h.workingPath

def resolve (h : Host) (path : Path) (follow : Bool) : Except DiskFault Resolved :=
  Resolved.ofPath h.disk h.workingDirectory path follow

/-- The location that a path leads to. -/
def locate (h : Host) (path : Path) (follow : Bool) : Except DiskFault Location := do
  match ← h.resolve path follow with
  | .found location => return location
  | .missing _ _ => throw (.system .notFound path)

/-- The location and the entry that a path leads to. -/
def look (h : Host) (path : Path) (follow : Bool) : Except DiskFault (Location × Entry) := do
  let location ← h.locate path follow
  match h.disk.get? location with
  | some entry => return (location, entry)
  | none => throw (.system .notFound path)

/-- A path that leads nowhere is unavailable; other faults stay. -/
def asUnavailable {α : Type} (path : Path) : Except DiskFault α → Except DiskFault α
  | .error (.system .notFound _) => .error (.pathUnavailable path)
  | x => x

/-! ### Looking -/

/-- What can be seen of the entry at a path, which may be a link. -/
def stat (h : Host) (path : Path) : Except DiskFault EntryInfo :=
  asUnavailable path ((h.look path false).map fun found => found.2.info)

/-- A test of the entry at a path, which fails where the path leads to none; only a path that is too
long for the system is a fault. -/
def test (h : Host) (path : Path) (follow : Bool) (p : Entry → Bool) : Except DiskFault Bool :=
  match h.look path follow with
  | .ok (_, entry) => .ok (p entry)
  | .error (.system .nameTooLong path) => .error (.system .nameTooLong path)
  | .error _ => .ok false

def isDirectoryEntry : Entry → Bool
  | .directory _ _ => true
  | _ => false

def isLinkEntry : Entry → Bool
  | .link _ _ => true
  | _ => false

/-- Whether a path leads to a directory, through links if need be. -/
def leadsToDirectory (h : Host) (path : Path) : Except DiskFault Bool :=
  h.test path true isDirectoryEntry

def isLink (h : Host) (path : Path) : Except DiskFault Bool := h.test path false isLinkEntry

/-- Whether a path leads to anything, through links if need be. -/
def leadsSomewhere (h : Host) (path : Path) : Except DiskFault Bool := h.test path true fun _ => true

/-- Whether the entry at a path is a directory to go down into: no link to one. -/
def isDirectory (h : Host) (path : Path) : Except DiskFault Bool := do
  return (← h.leadsToDirectory path) && !(← h.isLink path)

/-- The entries of the directory that a path leads to. -/
def children (h : Host) (path : Path) : Except DiskFault (List (String × Entry)) := do
  match ← h.look path true with
  | (_, .directory _ children) => return children
  | _ => throw (.system .notDirectory path)

/-- The names of the entries of the directory that a path leads to. -/
def list (h : Host) (path : Path) : Except DiskFault (List String) :=
  asUnavailable path ((h.children path).map fun children => children.map (·.1))

/-- The number of a group. -/
def groupId (h : Host) (name : String) : Except DiskFault Nat :=
  match h.groups.lookup name with
  | some gid => .ok gid
  | none => .error (.unknownGroup name)

/-- The entry that a path leads to when it is taken as it is written, if there is one. -/
def entryAt? (h : Host) (text : String) : Except DiskFault (Option Entry) :=
  match Resolved.ofText h.disk h.workingDirectory text with
  | .ok (.found location) => .ok (h.disk.get? location)
  | .ok (.missing _ _) => .ok none
  | .error (.system _ _) => .ok none
  | .error fault => .error fault

/-! ### Modes and groups -/

/-- The host after a change to the entry at a location. -/
def changeAt (h : Host) (location : Location) (f : Entry → Entry) : Host :=
  { h with disk := h.disk.change f location }

/-- Sets the mode of the entry that a path leads to. -/
def setMode (h : Host) (path : Path) (mode : Mode) : Except DiskFault Host := do
  let (location, _) ← h.look path true
  return h.changeAt location (Entry.withMode mode)

/-- Sets the mode of the entry at a path, unless it is a link. -/
def chmod (h : Host) (path : Path) (mode : Mode) : Told DiskFault Host := do
  if ← Told.ofExcept (h.isLink path) then
    Told.tell ⟨.debug, .disk, s!"not chmodding symlink {path}"⟩
    return h
  else Told.ofExcept (asUnavailable path (h.setMode path mode))

/-- The highest group number, which stands for no group. -/
def noGroup : Int := 4294967295

/-- The group that a number sets: none for minus one and for the highest number. -/
def wantedGroup (gid : Int) : Except DiskFault (Option Nat) :=
  if gid = -1 ∨ gid = noGroup then .ok none
  else if 0 ≤ gid ∧ gid < noGroup then .ok (some gid.toNat)
  else .error .groupOutOfRange

/-- Whether the caller may give an entry of one group another. -/
def mayChangeGroup (h : Host) (old : Nat) : Option Nat → Bool
  | none => true
  | some new => h.caller.mayChangeGroups || new == old || h.caller.groups.contains new

/-- Sets the group of the entry at a path, be it a link. -/
def setGroup (h : Host) (path : Path) (gid : Int) : Except DiskFault Host := do
  let wanted ← wantedGroup gid
  let (location, entry) ← h.look path false
  if h.mayChangeGroup entry.info.gid wanted then
    return h.changeAt location (Entry.chgrp wanted)
  else throw (.system .notPermitted path)

/-- Sets the group of the entry at a path, which must be there. -/
def chgrp (h : Host) (path : Path) (gid : Int) : Except DiskFault Host :=
  asUnavailable path (h.setGroup path gid)

/-! ### Making and reading files -/

/-- The attributes of a new entry: the group is the caller's, or that of a directory that hands its
group down. -/
def newAttributes (h : Host) (directory : Location) (mode : Mode) (isDirectory : Bool) :
    Attributes :=
  match (h.disk.get? directory).map Entry.info with
  | some i =>
    if i.mode &&& Mode.setGroup = 0 then { mode, gid := 0 }
    else { mode := if isDirectory then mode ||| Mode.setGroup else mode, gid := i.gid }
  | none => { mode, gid := 0 }

def directoryMode : Mode := 0o755

def fileMode : Mode := 0o644

/-- Makes one directory where nothing is yet. -/
def makeDirectory (h : Host) (path : Path) : Except DiskFault Host := do
  match ← h.resolve path false with
  | .found _ => throw (.system .exists path)
  | .missing directory name =>
    let attributes := h.newAttributes directory directoryMode true
    return { h with disk := h.disk.put directory name (.directory attributes []) }

/-- Makes a directory, which is no fault if it is there already. -/
def ensureDirectory (h : Host) (path : Path) : Except DiskFault Host :=
  match h.makeDirectory path with
  | .error (.system .notFound p) => .error (.system .notFound p)
  | .error (.system error p) => do
    if ← h.leadsToDirectory path then return h else throw (.system error p)
  | made => made

/-- Makes a directory and those above it that are missing; the number bounds how many. -/
def makeDirectories : Nat → Path → Host → Except DiskFault Host
  | 0, path, h => h.ensureDirectory path
  | fuel + 1, path, h =>
    match h.ensureDirectory path with
    | .error (.system .notFound p) =>
      if path.names.isEmpty then .error (.system .notFound p)
      else (makeDirectories fuel path.parent h).bind fun h => h.ensureDirectory path
    | made => made

/-- Makes the directory that a file is to be in. -/
def makeParents (h : Host) (path : Path) : Except DiskFault Host :=
  makeDirectories path.names.length path.parent h

/-- The host with the file of a path there and more content in it. -/
def appendFile (h : Host) (path : Path) (bytes : List UInt8) : Except DiskFault Host := do
  match ← h.resolve path true with
  | .missing directory name =>
    let attributes := h.newAttributes directory fileMode false
    return { h with disk := h.disk.put directory name (.file attributes bytes) }
  | .found location =>
    match h.disk.get? location with
    | some (.file _ _) => return h.changeAt location (Entry.append bytes)
    | _ => throw (.system .isDirectory path)

/-- The bytes of the file that a path leads to. -/
def content (h : Host) (path : Path) : Except DiskFault (List UInt8) := do
  match ← h.look path true with
  | (_, .file _ content) => return content
  | _ => throw (.system .isDirectory path)

end Host

end Curfew
