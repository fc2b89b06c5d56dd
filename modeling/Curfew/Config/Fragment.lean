import Curfew.Config.Directives

/-!
One node of a config with its keys told apart.

Reserved keys are settings, times are dates of policies, texts and whole numbers are names of
children, and no other key is allowed. The keys are taken in order, so the first one that is refused
decides what is wrong with the node.
-/

namespace Curfew

/-- What is wrong with a node of a config. -/
inductive NodeFault where
  | notMapping (kind : String)
  | directives (issues : List Issue)
  | dated (date : When) (issues : List Issue)
  | unsupportedKey (key : Value)
  | notSegment (name : String)
  | childNotMapping (name : String) (kind : String)

namespace NodeFault

/-- What is said of the node at a location. -/
def message (location : String) : NodeFault → String
  | .notMapping kind => s!"{location}: node must be a mapping, got {kind}"
  | .directives _ => s!"{location}: {Issue.summary}"
  | .dated date _ => s!"{location}: policy dated {date.text}: {Issue.summary}"
  | .unsupportedKey key =>
    s!"{location}: unsupported key {String.ofList key.literal} ({key.kindName})"
  | .notSegment name => s!"{location}: {Text.quote name} is not a single path segment"
  | .childNotMapping name kind => s!"{location}/{name}: node must be a mapping, got {kind}"

/-- The issues of a fault that comes of them. -/
def issues? : NodeFault → Option (List Issue)
  | .directives issues => some issues
  | .dated _ issues => some issues
  | _ => none

end NodeFault

/-- What a node says about itself: its settings and its dated policies. -/
structure Settings where
  directives : Directives
  dated : List (When × ModeSpec)
deriving DecidableEq

def Settings.empty : Settings := { directives := .empty, dated := [] }

/-- A node with its keys told apart; each child keeps its own mapping. -/
structure Fragment where
  settings : Settings
  children : List (String × Entries)

namespace Fragment

/-- Whether a name is one component of a path. -/
def isSegment (name : String) : Bool :=
  !name.isEmpty && name != "." && name != ".." && !name.toList.contains '/'

/-- The mapping of a child; nothing at all stands for an empty one. -/
def childEntries (name : String) : Value → Except NodeFault Entries
  | .null => .ok []
  | .map entries => .ok entries
  | v => .error (.childNotMapping name v.kindName)

/-- The children with one more; a name that is there already keeps its place. -/
def putChild (name : String) (entries : Entries) :
    List (String × Entries) → List (String × Entries)
  | [] => [(name, entries)]
  | child :: rest =>
    if child.1 = name then (name, entries) :: rest else child :: putChild name entries rest

/-- The node with one more child. -/
def addChild (name : String) (value : Value) (f : Fragment) : Except NodeFault Fragment := do
  let entries ← childEntries name value
  if isSegment name then return { f with children := putChild name entries f.children }
  else throw (.notSegment name)

/-- The node with one more dated policy. -/
def addDated (date : When) (value : Value) (f : Fragment) : Except NodeFault Fragment :=
  match ModeSpec.ofValue value with
  | .ok spec =>
    .ok { f with settings := { f.settings with dated := f.settings.dated ++ [(date, spec)] } }
  | .error issues => .error (.dated date issues)

/-- The node with one more of its entries. -/
def add (f : Fragment) (entry : Value × Value) : Except NodeFault Fragment :=
  match entry.1 with
  | .text name =>
    if Directives.reservedKeys.contains name then .ok f else f.addChild name entry.2
  | .int i => f.addChild (Text.decimal i) entry.2
  | .time date => f.addDated date entry.2
  | key => .error (.unsupportedKey key)

/-- The node of a mapping. -/
def ofEntries (entries : Entries) : Except NodeFault Fragment :=
  match Directives.ofEntries entries with
  | .error issues => .error (.directives issues)
  | .ok directives =>
    entries.foldlM add { settings := { directives, dated := [] }, children := [] }

/-- The mapping of a node; nothing at all stands for an empty one. -/
def nodeEntries : Value → Except NodeFault Entries
  | .null => .ok []
  | .map entries => .ok entries
  | v => .error (.notMapping v.kindName)

/-- The node of a value. -/
def ofValue (value : Value) : Except NodeFault Fragment := do
  ofEntries (← nodeEntries value)

/-! ### Size -/

/-- A child's mapping lies inside the value it was given by. -/
theorem sizeOf_childEntries {name : String} {value : Value} {entries : Entries}
    (h : childEntries name value = .ok entries) : sizeOf entries ≤ sizeOf value := by
  cases value <;> simp only [childEntries, Except.ok.injEq, reduceCtorEq] at h <;> subst h
  case null => simp
  case map => simp

theorem mem_putChild {name : String} {entries : Entries} {children : List (String × Entries)}
    {child : String × Entries} (h : child ∈ putChild name entries children) :
    child ∈ children ∨ child = (name, entries) := by
  induction children with
  | nil => simp_all [putChild]
  | cons first rest ih =>
    unfold putChild at h
    split at h <;> simp only [List.mem_cons] at h ⊢
    · exact h.elim Or.inr fun h => Or.inl (Or.inr h)
    · exact h.elim (fun h => Or.inl (Or.inl h)) fun h => (ih h).imp Or.inr id

theorem mem_addChild {name : String} {value : Value} {f g : Fragment}
    (h : f.addChild name value = .ok g) {child : String × Entries} (hc : child ∈ g.children) :
    child ∈ f.children ∨ sizeOf child.2 ≤ sizeOf value := by
  simp only [addChild, bind, Except.bind] at h
  split at h
  · cases h
  · rename_i entries he
    split at h
    · cases h
      refine (mem_putChild hc).imp id fun hc => ?_
      rw [hc]
      exact sizeOf_childEntries he
    · cases h

theorem mem_add {f g : Fragment} {entry : Value × Value} (h : f.add entry = .ok g)
    {child : String × Entries} (hc : child ∈ g.children) :
    child ∈ f.children ∨ sizeOf child.2 ≤ sizeOf entry.2 := by
  unfold add at h
  split at h
  · split at h
    · cases h
      exact Or.inl hc
    · exact mem_addChild h hc
  · exact mem_addChild h hc
  · unfold addDated at h
    split at h <;> cases h
    exact Or.inl hc
  · cases h

theorem mem_foldlM_add {entries : Entries} {f g : Fragment} (h : entries.foldlM add f = .ok g)
    {child : String × Entries} (hc : child ∈ g.children) :
    child ∈ f.children ∨ sizeOf child.2 < sizeOf entries := by
  induction entries generalizing f with
  | nil =>
    cases h
    exact Or.inl hc
  | cons entry entries ih =>
    simp only [List.foldlM_cons, bind, Except.bind] at h
    split at h
    · cases h
    · rename_i f' hf
      have hsize : sizeOf entry.2 < sizeOf entry := by
        cases entry
        simp only [Prod.mk.sizeOf_spec]
        omega
      rcases ih h with h' | h'
      · rcases mem_add hf h' with h'' | h''
        · exact Or.inl h''
        · exact Or.inr (by simp only [List.cons.sizeOf_spec]; omega)
      · exact Or.inr (by simp only [List.cons.sizeOf_spec]; omega)

/-- A child's mapping is smaller than its parent's. -/
theorem sizeOf_child_lt {entries : Entries} {f : Fragment} (h : ofEntries entries = .ok f)
    {child : String × Entries} (hc : child ∈ f.children) : sizeOf child.2 < sizeOf entries := by
  unfold ofEntries at h
  split at h
  · cases h
  · exact (mem_foldlM_add h hc).resolve_left (by simp)

end Fragment

end Curfew
