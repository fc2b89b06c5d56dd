import Curfew.Host
import Curfew.Wildcard

/-!
Patterns for paths.

A pattern is taken behind a base path. Where that leads to a directory, it stands for the directory and
all below it; else each name with wildcards is matched against the entries of the directories so far.
Wildcards in the base itself count as well.
-/

namespace Curfew.Host

/-- Whether a link, file or directory is at a path. -/
def isThere (h : Host) (path : Path) : Bool :=
  match h.look path false with
  | .ok _ => true
  | .error _ => false

/-- Whether an entry of a directory is a directory or a link to one. -/
def entersDirectory (h : Host) (path : Path) : Bool :=
  match h.leadsToDirectory path with
  | .ok b => b
  | .error _ => false

/-- The names in a directory that match a pattern, of directories only if wanted. A path that leads
to no directory has none. -/
def matchingNames (h : Host) (directory : Path) (pattern : String) (directoriesOnly : Bool) :
    Except DiskFault (List String) :=
  match h.children directory with
  | .error .nullCharacter => .error .nullCharacter
  | .error .surrogate => .error .surrogate
  | .error _ => .ok []
  | .ok children =>
    let names := children.map (·.1)
    let wanted := names.filter fun name =>
      !directoriesOnly || h.entersDirectory (directory.child name)
    let shown := if Wildcard.isHidden pattern then wanted
      else wanted.filter fun name => !Wildcard.isHidden name
    .ok (shown.filter (Wildcard.matchName pattern))

/-- The names in a directory that a name or pattern stands for. -/
def namesFor (h : Host) (directory : Path) (name : String) (directoriesOnly : Bool) :
    Except DiskFault (List String) :=
  if Wildcard.isPattern name then h.matchingNames directory name directoriesOnly
  else .ok (if h.isThere (directory.child name) then [name] else [])

/-- The paths that the names of a pattern stand for, given from the last to the first. -/
def expandNames (h : Host) (root : Root) :
    Bool → List String → Except DiskFault (List Path)
  | _, [] => .ok [⟨root, []⟩]
  | directoriesOnly, name :: before => do
    let directories ← if before.any Wildcard.isPattern then h.expandNames root true before
      else pure [⟨root, before.reverse⟩]
    let found ← directories.mapM fun directory => do
      return (← h.namesFor directory name directoriesOnly).map directory.child
    return found.flatten

/-- The paths that a path with wildcards stands for; without any it must be there itself. -/
def expand (h : Host) (target : Path) : Except DiskFault (List Path) :=
  if target.names.any Wildcard.isPattern then h.expandNames target.root false target.names.reverse
  else .ok (if h.isThere target then [target] else [])

/-- Refuses a directory that cannot be opened by its path; other entries are not opened. -/
def checkOpens (path : Path) : Entry → Except DiskFault Unit
  | .directory _ _ => Resolved.checkText path.text
  | _ => .ok ()

/-- A directory and all below it, no link in it being followed. -/
def subtree (h : Host) (target : Path) : Except DiskFault (List Path) := do
  let (_, entry) ← h.look target true
  let found := entry.descendants.map fun found => (target.below found.1, found.2)
  found.forM fun found => checkOpens found.1 found.2
  return target :: found.map (·.1)

/-- The paths that a pattern behind a base stands for, made absolute. -/
def glob (h : Host) (base : Path) (pattern : String) : Told DiskFault (List Path) := do
  let target := base.join (.ofText pattern)
  let found ← Told.ofExcept do
    if ← h.leadsToDirectory target then h.subtree target else h.expand target
  Told.tell ⟨.debug, .disk, s!"glob {target} matched {found.length} paths"⟩
  return (found.map h.absolute).eraseDups

end Curfew.Host
