import Curfew.Disk.Entry
import Curfew.Disk.Fault
import Curfew.Text.Surrogate
import Curfew.Text.Utf8

/-!
From paths to locations.

A path is followed name by name. A link on the way is replaced by its target, at most forty times; the
last name may be left unfollowed, so that a link itself can be looked at. Double dots lead to the
directory above, wherever the links before them led.
-/

namespace Curfew

/-- Where a path leads: to an entry, or to a name that is free in a directory. -/
inductive Resolved where
  | found (location : Location)
  | missing (directory : Location) (name : String)
deriving DecidableEq

namespace Resolved

/-- How many links one path may lead through. -/
def mostLinks : Nat := 40

/-- The most bytes of one name. -/
def longestName : Nat := 255

/-- The most bytes of a path. -/
def longestPath : Nat := 4095

/-- The names of a link's target; a slash at its end asks for a directory, as a dot does. -/
def targetNames (target : String) : List String :=
  let names := ((Text.splitAt '/' target.toList).map String.ofList).filter (· ≠ "")
  if target.toList.getLast? = some '/' then names ++ ["."] else names

/-- Where a link's target begins. -/
def targetStart (here : Location) (target : String) : Location :=
  if target.toList.head? = some '/' then [] else here

/-- Follows names from a location; what `again` finds is taken for a link with the names behind it. -/
def walk (disk : Entry) (again : Location → List String → Except SystemError Resolved)
    (follow : Bool) (here : Location) : List String → Except SystemError Resolved
  | [] => .ok (.found here)
  | name :: rest =>
    match disk.get? here with
    | some (.directory _ children) =>
      if name = "." then walk disk again follow here rest
      else if name = ".." then walk disk again follow here.dropLast rest
      else if longestName < Text.Utf8.size name then .error .nameTooLong
      else
        match children.lookup name with
        | none => if rest.isEmpty then .ok (.missing here name) else .error .notFound
        | some (.link _ target) =>
          if rest.isEmpty && !follow then .ok (.found (here ++ [name]))
          else again (targetStart here target) (targetNames target ++ rest)
        | some _ => walk disk again follow (here ++ [name]) rest
    | _ => .error .notDirectory

/-- Follows names through so many links. -/
def ofNames (disk : Entry) (follow : Bool) :
    Nat → Location → List String → Except SystemError Resolved
  | 0 => walk disk (fun _ _ => .error .tooManyLinks) follow
  | links + 1 => walk disk (ofNames disk follow links) follow

/-- The surrogates that stand for single bytes in names. -/
def isByte (code : Nat) : Bool := 0xdc80 ≤ code && code < 0xdd00

/-- Whether a text has bytes to be handed to the system. -/
def hasBytes (text : String) : Bool :=
  text.toList.all fun c => ((Text.Surrogate.code? c).map isByte).getD true

/-- Refuses what the system cannot be asked for as a path. -/
def checkText (text : String) : Except DiskFault Unit :=
  if !hasBytes text then .error .surrogate
  else if text.toList.contains '\x00' then .error .nullCharacter
  else if longestPath < Text.Utf8.size text then .error (.system .nameTooLong (.ofText text))
  else .ok ()

/-- Where a path leads from a working directory. -/
def ofPath (disk : Entry) (workingDirectory : Location) (path : Path) (follow : Bool) :
    Except DiskFault Resolved := do
  checkText path.text
  let start := if path.root = .working then workingDirectory else []
  (ofNames disk follow mostLinks start path.names).mapError (.system · path)

/-- Where a path leads that is taken as it is written: dots and a slash at its end ask for
directories, and an empty one leads nowhere. -/
def ofText (disk : Entry) (workingDirectory : Location) (text : String) :
    Except DiskFault Resolved := do
  checkText text
  if text.isEmpty then throw (.system .notFound (.ofText text))
  (ofNames disk true mostLinks (targetStart workingDirectory text) (targetNames text)).mapError
    (.system · (.ofText text))

end Resolved

end Curfew
