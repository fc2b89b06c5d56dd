import Curfew.Config.Issue

/-!
Mode expressions of one policy: one for directories and one for everything else.

A config gives both at once or each under a key of its own. A number stands for its octal digits,
because a document may hold a mode that was read as an octal number.
-/

namespace Curfew

structure ModeSpec where
  dir : String
  file : String
deriving DecidableEq

namespace ModeSpec

/-- A number as the expression that means it; any other value as it is. -/
def expression : Value → Value
  | .int i => .text (String.ofList (Text.octalChars 4 i))
  | v => v

/-- The expression under a key. -/
def field (name : String) (entries : Entries) : Checked String :=
  Checked.inside (.key name) <|
    match Value.field? name entries with
    | none => Checked.refuse .missing
    | some value => Checked.nonEmptyText (expression value)

/-- An issue for each key that is no text. -/
def badKeys (entries : Entries) : List Issue :=
  entries.filterMap fun entry =>
    match entry.1 with
    | .text _ => none
    | key => some ⟨.badKey, [Issue.stepOf key]⟩

/-- An issue for each text key besides the two that are read. -/
def unexpected (entries : Entries) : List Issue :=
  entries.filterMap fun entry =>
    match entry.1 with
    | .text name => if name = "dir" || name = "file" then none else some ⟨.unexpected, [.key name]⟩
    | _ => none

/-- Whether a key holds a surrogate. -/
def hasSurrogateKey (entries : Entries) : Bool :=
  entries.any fun entry =>
    match entry.1 with
    | .text name => Text.Surrogate.isIn name
    | _ => false

/-- The expressions of a mapping. A key that holds a surrogate, or else keys that are no texts, keep it
from being looked at further. -/
def ofEntries (entries : Entries) : Checked ModeSpec :=
  if hasSurrogateKey entries then Checked.refuse .notUnicode
  else match badKeys entries with
  | [] =>
    match field "dir" entries, field "file" entries, unexpected entries with
    | .ok dir, .ok file, [] => .ok { dir, file }
    | dir, file, extra => .error (dir.issues ++ file.issues ++ extra)
  | issues => .error issues

/-- The expressions of a value, which is a mapping of both or one expression for both. -/
def ofValue : Value → Checked ModeSpec
  | .map entries => ofEntries entries
  | v => ofEntries [(.text "dir", expression v), (.text "file", expression v)]

end ModeSpec

end Curfew
