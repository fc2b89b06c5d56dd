import Curfew.Text.Surrogate
import Curfew.Text.Utf8
import Curfew.Value.Display

/-!
What is wrong with the settings of a config.

Settings are checked as a whole, so that all their issues are found at once; each tells its cause and
where in the settings it lies.
-/

namespace Curfew

/-- One step towards a place inside a value. -/
inductive Step where
  | key (name : String)
  | index (i : Int)
deriving DecidableEq

inductive Cause where
  | missing
  | notText
  | tooShort
  /-- Bytes that are no UTF-8, or a text that has no UTF-8. -/
  | notUnicode
  | unexpected
  | notList
  | badKey
deriving DecidableEq

structure Issue where
  cause : Cause
  location : List Step
deriving DecidableEq

/-- Settings as they were found, or all that is wrong with them. -/
abbrev Checked (α : Type) := Except (List Issue) α

namespace Issue

/-- What stands for the issues in a message; they are listed beside it. -/
def summary : String := "<validation>"

/-- The issue seen from outside a step. -/
def inside (step : Step) (issue : Issue) : Issue :=
  { issue with location := step :: issue.location }

/-- The numbers of sixty-four bits with a sign, from the least to the greatest. -/
def leastIndex : Int := -9223372036854775808

def greatestIndex : Int := 9223372036854775807

/-- The step to the value under a key. A key that is no text and no number of sixty-four bits is
named by its literal. -/
def stepOf : Value → Step
  | .text s => .key s
  | .bool b => .index (if b then 1 else 0)
  | .int i =>
    if leastIndex ≤ i ∧ i ≤ greatestIndex then .index i
    else .key (String.ofList (Text.decimalChars i))
  | v => .key (String.ofList v.literal)

end Issue

namespace Checked

variable {α : Type}

/-- All that is wrong, nothing when the settings are as they should be. -/
def issues : Checked α → List Issue
  | .ok _ => []
  | .error issues => issues

/-- A single issue at the value itself. -/
def refuse (cause : Cause) : Checked α := .error [⟨cause, []⟩]

/-- The same settings seen from outside a step. -/
def inside (step : Step) (checked : Checked α) : Checked α :=
  checked.mapError fun issues => issues.map (Issue.inside step)

/-- The text of a value that is one, bytes being read as UTF-8. -/
def text : Value → Checked String
  | .text s => .ok s
  | .bytes bs =>
    match Text.Utf8.decode bs with
    | some cs => .ok (String.ofList cs)
    | none => refuse .notUnicode
  | _ => refuse .notText

/-- A text that is not empty and holds no surrogate. -/
def nonEmptyText (value : Value) : Checked String :=
  match text value with
  | .ok s =>
    if Text.Surrogate.isIn s then refuse .notUnicode
    else if s.isEmpty then refuse .tooShort
    else .ok s
  | .error issues => .error issues

/-- The texts of a list, counted from a number. -/
def texts (start : Nat) : List Value → Checked (List String)
  | [] => .ok []
  | item :: items =>
    match inside (.index start) (text item), texts (start + 1) items with
    | .ok s, .ok rest => .ok (s :: rest)
    | first, rest => .error (first.issues ++ rest.issues)

end Checked

end Curfew
