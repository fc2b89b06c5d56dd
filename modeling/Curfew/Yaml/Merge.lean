import Curfew.Yaml.Cursor
import Curfew.Yaml.Graph

/-!
Merged mappings.

A merge key gives a mapping the pairs of its value, which is a mapping or a sequence of mappings. They
come before the mapping's own pairs, and of a sequence the last mapping comes first, so that what is
nearer decides. Merging changes the node itself, wherever else it stands.
-/

namespace Curfew.Yaml

/-- Steps that change the nodes of a document. -/
abbrev Merging := StateT Graph (Except Fault)

namespace Merging

def fail {α : Type} : Merging α := throw .malformed

/-- The pairs of a mapping. -/
def pairs (id : NodeId) : Merging (List (NodeId × NodeId)) := do
  match (← get).pairs? id with
  | some pairs => return pairs
  | none => fail

def setPairs (id : NodeId) (pairs : List (NodeId × NodeId)) : Merging Unit :=
  modify fun g => g.setContent id (.mapping pairs)

/-- Takes the first merge out of a mapping and gives what is to be merged. -/
def takeMerge (id : NodeId) : Merging (Option NodeId) := do
  let g ← get
  match (← pairs id).span fun pair => g.tag pair.1 ≠ .merge with
  | (_, []) => return none
  | (before, (_, value) :: behind) =>
    setPairs id (before ++ behind)
    return some value

/-- A key that stands for the value of its mapping becomes a text. -/
def settleKey (id : NodeId) : Merging Unit :=
  modify fun g => if g.tag id = .default then g.setTag id .text else g

/-- The pairs that a merged value gives, which is merged itself before. -/
def mergedPairs (flatten : NodeId → Merging Unit) (value : NodeId) :
    Merging (List (NodeId × NodeId)) := do
  match (← get).items? value with
  | none =>
    if ((← get).pairs? value).isNone then fail
    flatten value
    pairs value
  | some items =>
    let parts ← items.mapM fun item => do
      if ((← get).pairs? item).isNone then fail
      flatten item
      pairs item
    return parts.reverse.flatten

/-- Merges into a mapping what its merge keys call for. Every merge is taken out before it is looked
into, so there are at most as many rounds as there are merges. -/
def flatten : Nat → NodeId → Merging Unit
  | 0, _ => fail
  | fuel + 1, id => do
    match ← takeMerge id with
    | none => (← pairs id).forM fun pair => settleKey pair.1
    | some value =>
      let merged ← mergedPairs (flatten fuel) value
      flatten fuel id
      setPairs id (merged ++ (← pairs id))

end Merging

end Curfew.Yaml
