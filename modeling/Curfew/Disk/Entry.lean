import Curfew.Mode.Basic
import Curfew.Path

/-!
What a disk holds: files, directories and symbolic links.

A directory holds its entries by name, sorted. A location is the names on the way down from the top
through real directories; looking up and changing an entry by its location follows no link.
-/

namespace Curfew

/-- The mode and the group of a file or directory. -/
structure Attributes where
  mode : Mode
  gid : Nat
deriving DecidableEq

inductive Entry where
  | file (attributes : Attributes) (content : List UInt8)
  | directory (attributes : Attributes) (children : List (String × Entry))
  | link (gid : Nat) (target : String)

/-- The names that lead from the top of a disk to an entry. -/
abbrev Location := List String

/-- The kinds of entries. -/
inductive EntryKind where
  | file
  | directory
  | link
deriving DecidableEq

/-- What can be seen of an entry without opening it. -/
structure EntryInfo where
  mode : Mode
  gid : Nat
  kind : EntryKind
deriving DecidableEq

namespace EntryInfo

def isDirectory (i : EntryInfo) : Bool := i.kind = .directory

def isLink (i : EntryInfo) : Bool := i.kind = .link

end EntryInfo

namespace Entry

def info : Entry → EntryInfo
  | .file a _ => { mode := a.mode, gid := a.gid, kind := .file }
  | .directory a _ => { mode := a.mode, gid := a.gid, kind := .directory }
  | .link gid _ => { mode := 0o777, gid, kind := .link }

/-! ### Directories -/

/-- The entries of a directory with one under a name, where it was or in the order of the names. -/
def putChild (name : String) (entry : Entry) : List (String × Entry) → List (String × Entry)
  | [] => [(name, entry)]
  | child :: rest =>
    if child.1 = name then (name, entry) :: rest
    else if name < child.1 then (name, entry) :: child :: rest
    else child :: putChild name entry rest

def dropChild (name : String) (children : List (String × Entry)) : List (String × Entry) :=
  children.filter fun child => child.1 ≠ name

/-- The entries of a directory with a change to the one under a name. -/
def changeChild (name : String) (f : Entry → Entry) : List (String × Entry) → List (String × Entry)
  | [] => []
  | child :: rest =>
    if child.1 = name then (name, f child.2) :: rest else child :: changeChild name f rest

/-! ### Locations -/

/-- The entry at a location. -/
def get? : Location → Entry → Option Entry
  | [], e => some e
  | name :: names, .directory _ children => (children.lookup name).bind (get? names)
  | _ :: _, _ => none

/-- A change to the entry at a location; nothing changes if there is none. -/
def change (f : Entry → Entry) : Location → Entry → Entry
  | [], e => f e
  | name :: names, .directory a children =>
    .directory a (changeChild name (change f names) children)
  | _ :: _, e => e

/-- A change to the entries of a directory; nothing changes elsewhere. -/
def changeChildren (f : List (String × Entry) → List (String × Entry)) : Entry → Entry
  | .directory a children => .directory a (f children)
  | e => e

/-- The disk with an entry under a name of the directory at a location. -/
def put (disk : Entry) (location : Location) (name : String) (entry : Entry) : Entry :=
  disk.change (changeChildren (putChild name entry)) location

/-- The disk without the entry at a location. -/
def remove (disk : Entry) (location : Location) : Entry :=
  match location.getLast? with
  | none => disk
  | some name => disk.change (changeChildren (dropChild name)) location.dropLast

/-! ### Changes to one entry -/

def changeAttributes (f : Attributes → Attributes) : Entry → Entry
  | .file a content => .file (f a) content
  | .directory a children => .directory (f a) children
  | e => e

/-- The entry with a mode; a link has none of its own. -/
def withMode (mode : Mode) : Entry → Entry := changeAttributes fun a => { a with mode }

/-- The mode of a file after its group was set: its set-user bit goes, and its set-group bit where
the group may execute it. -/
def modeAfterChgrp (mode : Mode) : Mode :=
  let mode := mode &&& ~~~Mode.setUser
  if mode &&& Mode.groupExecute = 0 then mode else mode &&& ~~~Mode.setGroup

/-- The entry after its group was set, or only touched for no number. -/
def chgrp (gid : Option Nat) : Entry → Entry
  | .file a content => .file { mode := modeAfterChgrp a.mode, gid := gid.getD a.gid } content
  | .directory a children => .directory { a with gid := gid.getD a.gid } children
  | .link old target => .link (gid.getD old) target

/-- The entry with more content; only a file has content. -/
def append (bytes : List UInt8) : Entry → Entry
  | .file a content => .file a (content ++ bytes)
  | e => e

/-! ### Everything below -/

mutual

/-- All entries below a directory with the names that lead to them, parents first. -/
def descendants : Entry → List (List String × Entry)
  | .directory _ children => allDescendants children
  | _ => []

def allDescendants : List (String × Entry) → List (List String × Entry)
  | [] => []
  | (name, entry) :: rest =>
    ([name], entry) :: (descendants entry).map (fun found => (name :: found.1, found.2)) ++
      allDescendants rest

end

end Entry

end Curfew
