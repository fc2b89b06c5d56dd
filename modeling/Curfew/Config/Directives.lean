import Curfew.Config.ModeSpec

/-!
The settings of a node under its reserved keys.

All other keys are dates of policies or names of children and do not bear on these.
-/

namespace Curfew

/-- The settings of a node: its default modes, its group and the patterns of what is excluded from
deadlines and of what is included again. -/
structure Directives where
  mode : Option ModeSpec
  group : Option String
  excludes : List String
  includes : List String
deriving DecidableEq

namespace Directives

/-- The keys that name settings. -/
def reservedKeys : List String := ["mode", "group", "exclude", "include"]

def empty : Directives := { mode := none, group := none, excludes := [], includes := [] }

/-- The mapping that the default modes are given by: one expression stands under both keys. -/
def modeEntries : Value → Option Entries
  | .null => none
  | .map entries => some entries
  | v => some [(.text "dir", ModeSpec.expression v), (.text "file", ModeSpec.expression v)]

def checkMode (given : Option Value) : Checked (Option ModeSpec) :=
  match given.bind modeEntries with
  | none => .ok none
  | some entries => (ModeSpec.ofEntries entries).map some

def checkGroup : Option Value → Checked (Option String)
  | none => .ok none
  | some .null => .ok none
  | some v => (Checked.text v).map some

/-- The patterns of a value: a single text, or a list, tuple or set of texts. -/
def checkPatterns : Option Value → Checked (List String)
  | none => .ok []
  | some .null => .ok []
  | some (.text s) => .ok [s]
  | some (.list items) => Checked.texts 0 items
  | some (.tuple items) => Checked.texts 0 items
  | some (.set items) => Checked.texts 0 items
  | some _ => Checked.refuse .notList

/-- What a check makes of the value under a key. -/
def under {α : Type} (name : String) (check : Option Value → Checked α) (entries : Entries) :
    Checked α :=
  Checked.inside (.key name) (check (Value.field? name entries))

/-- The settings of a node's mapping. -/
def ofEntries (entries : Entries) : Checked Directives :=
  match under "mode" checkMode entries, under "group" checkGroup entries,
    under "exclude" checkPatterns entries, under "include" checkPatterns entries with
  | .ok mode, .ok group, .ok excludes, .ok includes => .ok { mode, group, excludes, includes }
  | mode, group, excludes, includes =>
    .error (mode.issues ++ group.issues ++ excludes.issues ++ includes.issues)

end Directives

end Curfew
