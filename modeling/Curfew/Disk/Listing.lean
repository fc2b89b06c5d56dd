import Curfew.Disk.Layout
import Curfew.Json.Reader

/-!
Disks described line by line.

Each line is an object with the path of one entry, its kind, mode and group, and the text of a file or
the target of a link. The entries are put in place in their order.
-/

namespace Curfew.Listing

/-- An entry to put in place. -/
structure Placed where
  path : Path
  item : Item
  mode : Mode
  gid : Int

/-- The text under a name. -/
def text? (name : String) (fields : Entries) : Option String :=
  match Value.field? name fields with
  | some (.text s) => some s
  | _ => none

/-- The item of a kind. -/
def item? (fields : Entries) : Option Item := do
  match ← text? "type" fields with
  | "file" => return .file (Text.Utf8.encode ((text? "text" fields).getD "").toList)
  | "dir" => return .directory
  | "link" => return .link (← text? "target" fields)
  | _ => none

/-- The mode that an item has if none is named. -/
def Item.presetMode : Item → Mode
  | .directory => Host.directoryMode
  | _ => Host.fileMode

/-- The group under a name, by default the first one. -/
def gid? (fields : Entries) : Option Int :=
  match Value.field? "gid" fields with
  | none => some 0
  | some (.int gid) => some gid
  | some _ => none

/-- The mode under a name, in octal digits. -/
def mode? (item : Item) (fields : Entries) : Option Mode :=
  match text? "mode" fields with
  | none => some (Item.presetMode item)
  | some digits => (Text.integer? 8 digits.toList).map Mode.ofInt

/-- The entry that a line describes. -/
def placed? (line : String) : Option Placed :=
  match Json.read line.toList with
  | .ok (.map fields) => do
    let item ← item? fields
    return { path := .ofText (← text? "path" fields), item, mode := ← mode? item fields
             gid := ← gid? fields }
  | _ => none

/-- The work that puts the entries of a listing in place. -/
def work (entries : List Placed) : Work Unit :=
  entries.forM fun e => Host.install e.path e.item e.mode e.gid

/-- The entry at a path as a line. -/
def lineOf (path : Path) (i : EntryInfo) : String :=
  let kind := match i.kind with
    | .file => "file"
    | .directory => "dir"
    | .link => "link"
  s!"{i.mode.text} {i.gid} {kind} {path}"

end Curfew.Listing
