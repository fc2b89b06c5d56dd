import Curfew.Yaml.Graph
import Curfew.Yaml.Token

/-!
YAML documents.

The tokens of a text are read by the grammar of the language. Every node gets a number when it begins,
and an anchor names it from there on, so a node can stand inside itself.
-/

namespace Curfew.Yaml

/-- A node with the graph it is in. -/
structure Document where
  graph : Graph
  root : NodeId

/-- The handles of tags with what they stand for. -/
abbrev Handles := List (List Char × List Char)

def presetHandles : Handles := [(['!'], ['!']), (['!', '!'], Tag.family.toList)]

/-- How far a text has been read, the nodes it has given so far, and the numbers of those that have a
name. -/
structure Outlook where
  progress : Progress
  graph : Graph
  handles : Handles
  anchors : List (List Char × NodeId)

abbrev Composing := StateT Outlook (Except Fault)

namespace Composing

def fail {α : Type} : Composing α := throw .malformed

/-- Goes on with the text. -/
def reading {α : Type} (r : Reading α) : Composing α := do
  let s ← get
  let (a, progress) ← (r.run s.progress : Except Fault (α × Progress))
  set { s with progress }
  return a

/-- The next token, which stays. -/
def peek : Composing Token := reading Reading.peek

def drop : Composing Unit := reading Reading.drop

/-- Takes the next token if it is the given one. -/
def accept (token : Token) : Composing Bool := do
  if (← peek) = token then
    drop
    return true
  else return false

def expect (token : Token) : Composing Unit := do
  unless ← accept token do fail

/-! ### Nodes -/

/-- Adds a node and gives its number. -/
def add (tag : Tag) (content : Content) : Composing NodeId :=
  modifyGet fun s => (s.graph.size, { s with graph := s.graph.push { tag, content } })

def setContent (id : NodeId) (content : Content) : Composing Unit :=
  modify fun s => { s with graph := s.graph.setContent id content }

/-- Adds an empty scalar. -/
def nothing : Composing NodeId := add .null (.scalar [])

/-! ### Properties of nodes -/

def anchor? : Composing (Option (List Char)) := do
  match ← peek with
  | .anchor name =>
    drop
    return some name
  | _ => return none

/-- The full name of a tag. -/
def tagName (word : TagWord) : Composing (List Char) := do
  match word.handle with
  | none => return word.suffix
  | some handle =>
    match (← get).handles.lookup handle with
    | some meaning => return meaning ++ word.suffix
    | none => fail

def tag? : Composing (Option TagWord) := do
  match ← peek with
  | .tag word =>
    drop
    return some word
  | _ => return none

/-- The anchor and the tag of a node, in either order. -/
def properties : Composing (Option (List Char) × Option (List Char)) := do
  match ← anchor? with
  | some name => do
    let word ← tag?
    return (some name, ← word.mapM tagName)
  | none => do
    let word ← tag?
    let name ← if word.isSome then anchor? else pure none
    return (name, ← word.mapM tagName)

/-- Adds a node that may have a name, which must be a new one. -/
def addNamed (name : Option (List Char)) (tag : Tag) (content : Content) : Composing NodeId := do
  match name with
  | none => add tag content
  | some name => do
    if ((← get).anchors.lookup name).isSome then fail
    let id ← add tag content
    modify fun s => { s with anchors := (name, id) :: s.anchors }
    return id

/-- The tag of a collection; without a specific one it is the preset. -/
def collectionTag (preset : Tag) : Option (List Char) → Tag
  | none => preset
  | some name => if name = ['!'] then preset else .ofName name

/-- The tag of a scalar; a plain one without a tag, and any with the non-specific tag, is what its
text looks like. -/
def scalarTag (text : List Char) (isPlain : Bool) : Option (List Char) → Tag
  | none => if isPlain then .ofText text else .text
  | some name => if name = ['!'] then .ofText text else .ofName name

/-- Adds a sequence and then its items, which a rule reads. -/
def sequence (name : Option (List Char)) (tag : Tag) (items : Composing (List NodeId)) :
    Composing NodeId := do
  let id ← addNamed name tag (.sequence [])
  setContent id (.sequence (← items))
  return id

/-- Adds a mapping and then its pairs, which a rule reads. -/
def mapping (name : Option (List Char)) (tag : Tag) (pairs : Composing (List (NodeId × NodeId))) :
    Composing NodeId := do
  let id ← addNamed name tag (.mapping [])
  setContent id (.mapping (← pairs))
  return id

/-! ### The grammar -/

/-- Where a node stands: what may begin it differs. -/
inductive Place where
  | flow
  | block
  /-- A value or key of a block mapping, where a sequence needs no indentation. -/
  | entry
deriving DecidableEq

/-- Runs a rule unless one of the given tokens comes next, which stand for an empty node. -/
def orNothing (tokens : List Token) (rule : Composing NodeId) : Composing NodeId := do
  if tokens.contains (← peek) then nothing else rule

mutual

/-- One node. -/
def node (place : Place) : Nat → Composing NodeId
  | 0 => fail
  | fuel + 1 => do
    match ← peek with
    | .alias name =>
      drop
      match (← get).anchors.lookup name with
      | some id => return id
      | none => fail
    | _ =>
      let (name, tagName) ← properties
      let listTag := collectionTag .list tagName
      let mapTag := collectionTag .map tagName
      match ← peek, place with
      | .blockEntry, .entry => sequence name listTag (looseItems fuel)
      | .scalar text isPlain, _ =>
        drop
        addNamed name (scalarTag text isPlain tagName) (.scalar text)
      | .flowSequence, _ =>
        drop
        sequence name listTag (flowItems true fuel)
      | .flowMapping, _ =>
        drop
        mapping name mapTag (flowPairs true fuel)
      | .blockSequence, .block | .blockSequence, .entry =>
        drop
        sequence name listTag (blockItems fuel)
      | .blockMapping, .block | .blockMapping, .entry =>
        drop
        mapping name mapTag (blockPairs fuel)
      | _, _ =>
        if name.isSome || tagName.isSome then
          addNamed name (scalarTag [] true tagName) (.scalar [])
        else fail

/-- The items of a block sequence and its end. -/
def blockItems : Nat → Composing (List NodeId)
  | 0 => fail
  | fuel + 1 => do
    if ← accept .blockEntry then
      let item ← orNothing [.blockEntry, .blockEnd] (node .block fuel)
      return item :: (← blockItems fuel)
    else
      expect .blockEnd
      return []

/-- The items of a sequence without indentation, which ends with its last item. -/
def looseItems : Nat → Composing (List NodeId)
  | 0 => fail
  | fuel + 1 => do
    if ← accept .blockEntry then
      let item ← orNothing [.blockEntry, .key, .value, .blockEnd] (node .block fuel)
      return item :: (← looseItems fuel)
    else return []

/-- The value of a pair in a block mapping. -/
def blockValue : Nat → Composing NodeId
  | 0 => fail
  | fuel + 1 => do
    if ← accept .value then orNothing [.key, .value, .blockEnd] (node .entry fuel)
    else nothing

/-- The pairs of a block mapping and its end. -/
def blockPairs : Nat → Composing (List (NodeId × NodeId))
  | 0 => fail
  | fuel + 1 => do
    if ← accept .key then
      let key ← orNothing [.key, .value, .blockEnd] (node .entry fuel)
      let value ← blockValue fuel
      return (key, value) :: (← blockPairs fuel)
    else
      expect .blockEnd
      return []

/-- The value of a pair between brackets, which end with the given token. -/
def flowValue (closing : Token) : Nat → Composing NodeId
  | 0 => fail
  | fuel + 1 => do
    if ← accept .value then orNothing [.flowEntry, closing] (node .flow fuel)
    else nothing

/-- A pair between brackets. -/
def flowPair (closing : Token) : Nat → Composing (NodeId × NodeId)
  | 0 => fail
  | fuel + 1 => do
    let key ← orNothing [.value, .flowEntry, closing] (node .flow fuel)
    return (key, ← flowValue closing fuel)

/-- The items of a flow sequence and its end; a pair among them is a mapping of its own. -/
def flowItems (isFirst : Bool) : Nat → Composing (List NodeId)
  | 0 => fail
  | fuel + 1 => do
    if ← accept .flowSequenceEnd then return []
    else
      if !isFirst then expect .flowEntry
      if ← accept .key then
        let item ← mapping none .map (do return [← flowPair .flowSequenceEnd fuel])
        return item :: (← flowItems false fuel)
      else if ← accept .flowSequenceEnd then return []
      else
        let item ← node .flow fuel
        return item :: (← flowItems false fuel)

/-- The pairs of a flow mapping and its end; a node without a value is a key alone. -/
def flowPairs (isFirst : Bool) : Nat → Composing (List (NodeId × NodeId))
  | 0 => fail
  | fuel + 1 => do
    if ← accept .flowMappingEnd then return []
    else
      if !isFirst then expect .flowEntry
      if ← accept .key then
        let pair ← flowPair .flowMappingEnd fuel
        return pair :: (← flowPairs false fuel)
      else if ← accept .flowMappingEnd then return []
      else
        let key ← node .flow fuel
        let value ← nothing
        return (key, value) :: (← flowPairs false fuel)

end

/-! ### Documents -/

/-- Takes the directives of a document. At most one tells the version, whose major number is one. -/
def directives : Nat → Bool → Handles → Composing Handles
  | 0, _, _ => fail
  | fuel + 1, hasVersion, handles => do
    match ← peek with
    | .directive (.version major) =>
      drop
      if hasVersion || major ≠ 1 then fail else directives fuel true handles
    | .directive (.handle name meaning) =>
      drop
      if (handles.lookup name).isSome then fail
      else directives fuel hasVersion ((name, meaning) :: handles)
    | .directive .other =>
      drop
      directives fuel hasVersion handles
    | _ => return handles

/-- Takes the marks that end documents. -/
def documentEnds : Nat → Composing Unit
  | 0 => fail
  | fuel + 1 => do if ← accept .documentEnd then documentEnds fuel

/-- Takes the directives of a document and the mark it begins with. -/
def documentStart (fuel : Nat) : Composing Unit := do
  let handles ← directives fuel false []
  modify fun s => { s with handles := handles ++ presetHandles }
  expect .documentStart

/-- A document that begins with its mark or with directives. -/
def explicitDocument (fuel : Nat) : Composing NodeId := do
  documentStart fuel
  match ← peek with
  | .directive _ => nothing
  | .documentStart => nothing
  | .documentEnd => nothing
  | .streamEnd => nothing
  | _ => node .block fuel

/-- The root of the only document of a text, `none` if there is none. The beginning of a second one is
still read before it is refused. -/
def document (fuel : Nat) : Composing (Option NodeId) := do
  let root ← match ← peek with
    | .streamEnd => return none
    | .directive _ => explicitDocument fuel
    | .documentStart => explicitDocument fuel
    | _ => node .block fuel
  documentEnds fuel
  if (← peek) = .streamEnd then return some root
  else
    documentStart fuel
    fail

end Composing

namespace Document

/-- The document of a text, `none` for a text without one. -/
def ofSource? (source : Source) : Except Fault (Option Document) := do
  let progress := Progress.start source
  let outlook : Outlook :=
    { progress, graph := #[], handles := presetHandles, anchors := [] }
  let (root?, outlook) ← (Composing.document (16 * progress.limit)).run outlook
  return root?.map fun root => { graph := outlook.graph, root }

end Document

end Curfew.Yaml
