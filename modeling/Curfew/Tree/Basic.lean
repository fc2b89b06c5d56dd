import Curfew.Config.Outline
import Curfew.Disk.Glob
import Curfew.Mode.Expression
import Curfew.Policy

/-!
The tree of managed entries.

Each node stands for one path and knows what holds there: its group, the paths that are excluded from
deadlines or included again, and its policies. All of these come from the node's own settings and from
what holds for its parent. Below a node are the children that the config declares and then those that
are only found on the disk.
-/

namespace Curfew

/-- What holds at a node. -/
structure Standing where
  path : Path
  group : String
  excludes : List Path
  includes : List Path
  policies : List Policy
deriving DecidableEq

inductive Tree where
  | node (standing : Standing) (config : Entries) (declared : List Tree) (discovered : List Tree)

/-- Why a tree cannot be built or applied. -/
inductive TreeFault where
  | config (error : NodeError)
  | disk (fault : DiskFault)
  | expression (error : InvalidExpression)
  /-- A policy's time cannot be moved by the local offset. -/
  | outOfCalendar

namespace Standing

/-- What holds above all nodes. -/
def outermost (path : Path) : Standing :=
  { path, group := "", excludes := [], includes := [], policies := [] }

/-- Whether an exclude pattern matches the node and no include pattern does. -/
def isExcluded (s : Standing) : Bool := s.excludes.contains s.path && !s.includes.contains s.path

/-- The latest policy once its time has passed, unless the node is excluded; else the earliest. There
is none where no policy holds; a time that leaves the calendar is a fault. -/
def resolve (s : Standing) (clock : Clock) : Except TreeFault (Option Policy) :=
  match Policy.latest s.policies with
  | none => .ok none
  | some latest =>
    if s.isExcluded then .ok (Policy.earliest s.policies)
    else match latest.isEligible? clock with
      | none => .error .outOfCalendar
      | some true => .ok (some latest)
      | some false => .ok (Policy.earliest s.policies)

/-- The policies of a node: its default, those of its parent, and its dated ones. -/
def derivePolicies (settings : Settings) (inherited : List Policy) : List Policy :=
  (settings.directives.mode.map Policy.default).toList ++ inherited ++
    settings.dated.map fun dated => Policy.dated dated.1 dated.2

/-- The same at another path. -/
def moved (s : Standing) (path : Path) : Standing := { s with path }

end Standing

namespace Tree

def standing : Tree → Standing
  | .node s _ _ _ => s

def path (t : Tree) : Path := t.standing.path

def config : Tree → Entries
  | .node _ c _ _ => c

def declared : Tree → List Tree
  | .node _ _ ts _ => ts

def discovered : Tree → List Tree
  | .node _ _ _ ts => ts

def children (t : Tree) : List Tree := t.declared ++ t.discovered

/-- The last name of a node's path. -/
def name (t : Tree) : String := t.path.names.getLast?.getD ""

mutual

/-- The standings of all nodes, children before parents. -/
def walk : Tree → List Standing
  | .node s _ declared discovered => walkAll declared ++ walkAll discovered ++ [s]

def walkAll : List Tree → List Standing
  | [] => []
  | t :: ts => walk t ++ walkAll ts

end

/-- A node in a few words. -/
def summary (t : Tree) : String :=
  let path := Text.quote t.path.text
  let group := Text.quote t.standing.group
  s!"PolicyTree(path={path}, group={group}, policies={t.standing.policies.length}, " ++
    s!"children={t.children.length})"

end Tree

end Curfew
