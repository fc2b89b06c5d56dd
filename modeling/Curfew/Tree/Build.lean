import Curfew.Tree.Basic

/-!
Building a tree from a config and a disk.

A node is made before its children, so the first fault on the way down comes up. What is found on the
disk has no settings of its own.
-/

namespace Curfew.Tree

mutual

/-- The node of an undeclared entry, with all below it; links are not followed. -/
def ofEntry (s : Standing) : Entry → Tree
  | .directory _ children => .node s [] [] (ofChildren s children)
  | _ => .node s [] [] []

/-- The nodes of the entries of a directory. -/
def ofChildren (s : Standing) : List (String × Entry) → List Tree
  | [] => []
  | (name, entry) :: rest => ofEntry (s.moved (s.path.child name)) entry :: ofChildren s rest

end

/-- Looks at each entry from the top to see whether to go down into it, which is a fault where the
system cannot be asked. -/
def checkEntries (h : Host) (path : Path) (children : List (String × Entry)) :
    Except DiskFault Unit :=
  (Entry.allDescendants children).forM fun found => do
    let _ ← h.isDirectory (path.below found.1)

/-- The entries of a node's directory that are not declared; none unless it is a real directory. -/
def undeclared (h : Host) (path : Path) (declared : List String) :
    Except DiskFault (List (String × Entry)) := do
  if ← h.isDirectory path then
    let children ← Host.asUnavailable path (h.children path)
    let found := children.filter fun child => !declared.contains child.1
    checkEntries h path found
    return found
  else return []

/-- The paths of patterns behind a node's path, after those that hold for its parent. -/
def expandAll (h : Host) (path : Path) : List String → List Path → Told TreeFault (List Path)
  | [], found => return found
  | pattern :: patterns, found => do
    let more ← (h.glob path pattern).mapFault .disk
    expandAll h path patterns (found ++ more)

/-- What holds at a path with settings of its own below a parent. -/
def derive (h : Host) (path : Path) (settings : Settings) (parent : Standing) :
    Told TreeFault Standing := do
  let own := settings.directives
  let excludes ← expandAll h path own.excludes parent.excludes
  let includes ← expandAll h path own.includes parent.includes
  return { path, group := own.group.getD parent.group, excludes, includes
           policies := Standing.derivePolicies settings parent.policies }

mutual

/-- The tree of an outline at a path below a parent. -/
def ofOutline (h : Host) (path : Path) (parent : Standing) : Outline → Told TreeFault Tree
  | .refused fault => Told.fail (.config ⟨path.text, fault⟩)
  | .node source settings children => do
    let s ← derive h path settings parent
    let declared ← ofDeclared h s children
    let found ← (Told.ofExcept (undeclared h path (children.map (·.1)))).mapFault .disk
    return .node s source declared (ofChildren s found)

/-- The trees of the declared children of a node. -/
def ofDeclared (h : Host) (s : Standing) : List (String × Outline) → Told TreeFault (List Tree)
  | [] => return []
  | (name, child) :: rest => do
    let t ← ofOutline h (s.path.child name) s child
    let ts ← ofDeclared h s rest
    return t :: ts

end

/-- The tree of a config bound to a root. -/
def build (h : Host) (config : Value) (root : Path) : Told TreeFault Tree :=
  let path := h.absolute root
  ofOutline h path (.outermost path) (Outline.ofValue config)

end Curfew.Tree
