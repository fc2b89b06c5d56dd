import Curfew.Yaml.Tag

/-!
The nodes of a YAML document.

Nodes are numbered and hold the numbers of the nodes below them. An alias is the number of the node it
names, so one node may be in several places, and inside itself.
-/

namespace Curfew.Yaml

abbrev NodeId := Nat

/-- What is in a node. -/
inductive Content where
  | scalar (text : List Char)
  | sequence (items : List NodeId)
  | mapping (pairs : List (NodeId × NodeId))
deriving DecidableEq

structure Node where
  tag : Tag
  content : Content
deriving DecidableEq

/-- A plain scalar without text. -/
def Node.nothing : Node := { tag := .null, content := .scalar [] }

/-- The nodes of a document by their numbers. -/
abbrev Graph := Array Node

namespace Graph

/-- The node of a number. -/
def node (g : Graph) (id : NodeId) : Node := g.getD id .nothing

def tag (g : Graph) (id : NodeId) : Tag := (g.node id).tag

/-- The pairs of a node that is a mapping. -/
def pairs? (g : Graph) (id : NodeId) : Option (List (NodeId × NodeId)) :=
  match (g.node id).content with
  | .mapping pairs => some pairs
  | _ => none

/-- The items of a node that is a sequence. -/
def items? (g : Graph) (id : NodeId) : Option (List NodeId) :=
  match (g.node id).content with
  | .sequence items => some items
  | _ => none

def setContent (g : Graph) (id : NodeId) (content : Content) : Graph :=
  g.setIfInBounds id { g.node id with content }

def setTag (g : Graph) (id : NodeId) (tag : Tag) : Graph :=
  g.setIfInBounds id { g.node id with tag }

/-- How many pairs there are in all mappings. -/
def pairCount (g : Graph) : Nat :=
  g.foldl (fun n node => match node.content with
    | .mapping pairs => n + pairs.length
    | _ => n) 0

end Graph

end Curfew.Yaml
