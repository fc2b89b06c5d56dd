import Curfew.Yaml.Document
import Curfew.Yaml.Merge
import Curfew.Yaml.Scalar

/-!
The value of a YAML document.

Scalars get their values when the collection around them is filled. The collections in it wait, in the
order in which they were met, so of two faults the one nearer to the root comes up first. A node is made
once, however often it is named.
-/

namespace Curfew.Yaml

/-! ### What is made of nodes -/

/-- A key with what it is told apart by when it is no number: such a number equals only itself. -/
structure Key where
  value : Value
  /-- The node that it comes from, none for the one value that has a word of its own. -/
  origin : Option NodeId

namespace Key

/-- Whether two keys of a document are the same. -/
def same (a b : Key) : Bool :=
  match a.value, b.value with
  | .float .nan, .float .nan => a.origin == b.origin
  | v, w => v.same w

end Key

/-- What is made of a node. The values in a collection are named by their nodes. -/
inductive Made where
  | value (v : Value)
  /-- A collection that is not filled yet. -/
  | waiting
  | list (items : List NodeId)
  /-- A list of tuples of two. -/
  | tuples (pairs : List (NodeId × NodeId))
  | map (entries : List (Key × NodeId))
  | set (keys : List Key)

/-- The nodes of a document, what was made of them so far, and the collections that wait, of which the
last met is the first. -/
structure Workshop where
  graph : Graph
  made : Array (Option Made)
  waiting : List NodeId
  /-- More than the number of nodes, and than the number of merges. -/
  limit : Nat

abbrev Making := StateT Workshop (Except Fault)

namespace Making

def fail {α : Type} : Making α := throw .malformed

/-- Whether the values of a tag are collections. -/
def isCollection (tag : Tag) : Bool :=
  tag = .omap || tag = .pairs || tag = .set || tag = .list || tag = .map

def put (id : NodeId) (made : Made) : Making Unit :=
  modify fun w => { w with made := w.made.setIfInBounds id (some made) }

/-- Merges into a mapping what its merge keys call for. -/
def merge (id : NodeId) : Making Unit := do
  let w ← get
  let (_, graph) ← ((Merging.flatten w.limit id).run w.graph : Except Fault (Unit × Graph))
  set { w with graph }

/-! ### Scalars -/

/-- The text of a scalar, or the one under the key that stands for the value of a mapping. -/
def textOf (g : Graph) : Nat → NodeId → Except Fault (List Char)
  | 0, _ => .error .malformed
  | fuel + 1, id =>
    match (g.node id).content with
    | .scalar text => .ok text
    | .sequence _ => .error .malformed
    | .mapping pairs =>
      match pairs.find? fun pair => g.tag pair.1 = .default with
      | some pair => textOf g fuel pair.2
      | none => .error .malformed

/-- The value of a node with the tag of a scalar. The text of a time must be the node's own. -/
def scalar (g : Graph) (limit : Nat) (id : NodeId) : Except Fault Value := do
  let text ← textOf g limit id
  if g.tag id = .timestamp && (g.pairs? id).isSome then .error .timeWithoutText
  else Scalar.value (g.tag id) text

/-- Makes the value of a node or, if it is a collection, lets it wait. -/
def make (id : NodeId) : Making Unit := do
  let w ← get
  if ((w.made.getD id none).isSome) then return
  let tag := w.graph.tag id
  if isCollection tag then
    put id .waiting
    modify fun w => { w with waiting := id :: w.waiting }
  else put id (.value (← scalar w.graph w.limit id))

/-! ### Collections -/

/-- Makes a key, which cannot be a collection. -/
def key (id : NodeId) : Making Key := do
  make id
  let w ← get
  match w.made.getD id none with
  | some (.value value) =>
    let isWord := match (w.graph.node id).content with
      | .scalar text => Scalar.isNotANumberWord text
      | _ => false
    return { value, origin := if isWord then none else some id }
  | _ => fail

/-- Makes a pair of a mapping. -/
def entry (pair : NodeId × NodeId) : Making (Key × NodeId) := do
  let key ← key pair.1
  make pair.2
  return (key, pair.2)

/-- The entries of a mapping after merging. An equal key that comes again gives its value to the
first. -/
def entries (id : NodeId) : Making (List (Key × NodeId)) := do
  if ((← get).graph.pairs? id).isNone then fail
  merge id
  let pairs := ((← get).graph.pairs? id).getD []
  let made ← pairs.mapM entry
  return made.foldl (fun entries e => Value.putBy Key.same e.1 e.2 entries) []

def items (id : NodeId) : Making (List NodeId) := do
  match (← get).graph.items? id with
  | some items => return items
  | none => fail

/-- Makes the pair that is the only one of a mapping, which is not merged. -/
def tuple (id : NodeId) : Making (NodeId × NodeId) := do
  match (← get).graph.pairs? id with
  | some [pair] =>
    make pair.1
    make pair.2
    return pair
  | _ => fail

/-- Fills a collection. -/
def fill (id : NodeId) : Making Unit := do
  match (← get).graph.tag id with
  | .map => put id (.map (← entries id))
  | .set => put id (.set ((← entries id).map (·.1)))
  | .list => do
    let items ← items id
    items.forM make
    put id (.list items)
  | _ => put id (.tuples (← (← items id).mapM tuple))

/-- Fills the collections that wait, and then those that were met in them. Each waits once. -/
def fillAll : Nat → Making Unit
  | 0 => return
  | fuel + 1 => do
    let w ← get
    if w.waiting.isEmpty then return
    set { w with waiting := [] }
    w.waiting.reverse.forM fill
    fillAll fuel

/-- Makes all nodes of a document that its root leads to. -/
def document (root : NodeId) : Making Unit := do
  make root
  fillAll (← get).limit

end Making

/-! ### Values -/

namespace Workshop

/-- An empty collection in place of one that is inside itself. -/
def Made.bare : Made → Value
  | .value v => v
  | .map _ => .map []
  | .set _ => .set []
  | _ => .list []

/-- The value of a node, given those that are known already. It is known to what is inside it as
empty. -/
def assemble (made : Array (Option Made)) : Nat → NodeId → StateM (Array (Option Value)) Value
  | 0, _ => return .null
  | fuel + 1, id => do
    match (← get).getD id none, made.getD id none with
    | some v, _ => return v
    | none, none => return .null
    | none, some m => do
      modify fun known => known.setIfInBounds id (some (Made.bare m))
      let v ← match m with
        | .value v => pure v
        | .waiting => pure (.list [])
        | .list items => Value.list <$> items.mapM (assemble made fuel)
        | .tuples pairs => Value.list <$> pairs.mapM fun pair => do
          let a ← assemble made fuel pair.1
          let b ← assemble made fuel pair.2
          return .tuple [a, b]
        | .map entries => Value.map <$> entries.mapM fun e => do
          return (e.1.value, ← assemble made fuel e.2)
        | .set keys => pure (.set (keys.map Key.value))
      modify fun known => known.setIfInBounds id (some v)
      return v

end Workshop

/-- The value of a document. -/
def Document.value (d : Document) : Except Fault Value := do
  let count := d.graph.size
  let workshop : Workshop :=
    { graph := d.graph, made := Array.replicate count none, waiting := []
      limit := count + d.graph.pairCount + 1 }
  let (_, workshop) ← (Making.document d.root).run workshop
  let known : Array (Option Value) := Array.replicate count none
  return ((Workshop.assemble workshop.made (count + 1) d.root).run known).1

/-- The value of a text; that of a text without a document is null. -/
def read (source : Source) : Except Fault Value := do
  match ← Document.ofSource? source with
  | none => return .null
  | some d => d.value

end Curfew.Yaml
