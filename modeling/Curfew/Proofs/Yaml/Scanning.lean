import Curfew.Proofs.Steps
import Curfew.Proofs.Yaml.Cursors
import Curfew.Yaml.Word

/-! What reading at a cursor may stop with: text that breaks the rules of the language, and escapes that give no
character. -/

namespace Curfew.Yaml

/-- The faults of texts that are no YAML. -/
def Fault.BreaksRules (fault : Fault) : Prop := fault = .malformed ∨ fault = .unfinished

instance (fault : Fault) : Decidable fault.BreaksRules := inferInstanceAs (Decidable (_ ∨ _))

/-- The number that digits of base sixteen spell. -/
def hexCode? (digits : List Char) : Option Nat :=
  (digits.mapM hexDigit?).map fun values => values.foldl (fun n d => n * 16 + d) 0

/-- Somewhere in a text a backslash, a letter and as many digits as it asks for give the code of a character. -/
def EscapesCode (cs : List Char) (code : Nat) : Prop :=
  ∃ letter digits, '\\' :: letter :: digits <:+: cs ∧ codeLength? letter = some digits.length ∧
    hexCode? digits = some code

/-- What may come up where a text is read: it breaks the rules, or escapes the code of no character. -/
def ScanFault (cs : List Char) (fault : Fault) : Prop :=
  fault.BreaksRules ∨ ∃ code, EscapesCode cs code ∧ character code = .error fault

variable {α : Type} {cs : List Char} {c : Cursor}

theorem ScanFault.malformed : ScanFault cs .malformed := .inl (.inl rfl)

end Curfew.Yaml
