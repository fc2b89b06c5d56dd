import Curfew.Proofs.Yaml.Scanning
import Curfew.Yaml.Token

/-! What reading tokens may stop with. Whatever a token does to blocks and candidates, the cursor stays in the text, so
only a fault of scanning comes up, or the one at the end of a text that is not all there. -/

namespace Curfew.Yaml

/-- What may come up where a source is read. -/
def ReadFault (source : Source) (fault : Fault) : Prop := ScanFault source.chars fault ∨ source.cut = some fault

/-- How far a source was read. -/
structure Progress.Of (source : Source) (p : Progress) : Prop where
  within : p.cursor.Within source.chars
  cut : p.cut = source.cut

variable {source : Source} {α β : Type}

theorem ReadFault.malformed : ReadFault source .malformed := .inl .malformed

theorem Progress.Of.closeBlocks {floor : Nat} {columns : List Nat} : ∀ {p : Progress},
    p.Of source → (p.closeBlocks floor columns).Of source := by
  induction columns with
  | nil => exact id
  | cons column columns ih =>
    intro p h
    unfold Progress.closeBlocks
    split
    · exact ih ⟨h.within, h.cut⟩
    · exact h

namespace Reading

end Reading

end Curfew.Yaml
