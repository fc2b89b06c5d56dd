import Curfew.Config.Fragment

/-!
A whole config as a tree of nodes.

An outline shows what a config declares, node by node, and which nodes are refused. Counting its
nodes checks it: the count stops at the first refused one.
-/

namespace Curfew

/-- A node of a config with all nodes below it. -/
inductive Outline where
  | refused (fault : NodeFault)
  | node (source : Entries) (settings : Settings) (children : List (String × Outline))

/-- A fault of a node with the location of the node. -/
structure NodeError where
  location : String
  fault : NodeFault

def NodeError.message (e : NodeError) : String := e.fault.message e.location

namespace Outline

/-- The node of nothing. -/
def empty : Outline := .node [] .empty []

/-- The outline of a mapping. -/
def ofEntries (entries : Entries) : Outline :=
  match _h : Fragment.ofEntries entries with
  | .error fault => .refused fault
  | .ok fragment =>
    .node entries fragment.settings
      (fragment.children.attach.map fun child => (child.1.1, ofEntries child.1.2))
  termination_by sizeOf entries
  decreasing_by exact Fragment.sizeOf_child_lt (by assumption) child.2

/-- The outline of a value. -/
def ofValue (value : Value) : Outline :=
  match Fragment.nodeEntries value with
  | .ok entries => ofEntries entries
  | .error fault => .refused fault

mutual

/-- How many nodes an outline at a location has, unless one of them is refused. -/
def count (location : String) : Outline → Except NodeError Nat
  | .refused fault => .error ⟨location, fault⟩
  | .node _ _ children => do
    let below ← countAll location children
    return 1 + below

/-- How many nodes the children of a location have. -/
def countAll (location : String) : List (String × Outline) → Except NodeError Nat
  | [] => .ok 0
  | (name, child) :: rest => do
    let n ← count (location ++ "/" ++ name) child
    let more ← countAll location rest
    return n + more

end

/-- What the top of a config is called in messages. -/
def rootLocation : String := "<root>"

end Outline

end Curfew
