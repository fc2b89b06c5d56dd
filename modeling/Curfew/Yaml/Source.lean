import Curfew.Text.Content
import Curfew.Yaml.Cursor

/-!
The characters that a YAML document is read from.

A text is checked as a whole before it is read. A file is checked block by block as the reading comes to
them, so a file with a bad block may be refused for what stands in front of it.
-/

namespace Curfew.Yaml

/-- Characters, and the fault that reading them to the end runs into if they are not all. -/
structure Source where
  chars : List Char
  cut : Option Fault
deriving DecidableEq

namespace Source

/-- All of a text. -/
def ofChars (cs : List Char) : Except Fault Source :=
  if cs.all isAllowed then .ok ⟨cs, none⟩ else .error .malformed

/-! ### Blocks of files -/

/-- How many characters of a file are checked at a time. -/
def block : Nat := 4096

/-- Where the block of a character begins; the first two blocks count as one. -/
def blockStart (index : Nat) : Nat := if index < 2 * block then 0 else index / block * block

/-- The characters in front of a bad block. -/
def cutAt (start : Nat) (fault : Fault) (cs : List Char) : Except Fault Source :=
  if start = 0 then .error fault else .ok ⟨cs.take start, some fault⟩

/-- The blocks of a file. Of one that cannot be read to its end only full blocks count, and not the
first alone. -/
def ofContent (content : Text.Content) : Except Fault Source :=
  let cs := content.chars
  let full := if content.isWhole then cs else cs.take (cs.length / block * block)
  if !content.isWhole && full.length < 2 * block then .error .notUnicode
  else match full.findIdx? fun c => !isAllowed c with
    | some index => cutAt (blockStart index) .malformed full
    | none => .ok ⟨full, if content.isWhole then none else some .notUnicode⟩

end Source

end Curfew.Yaml
