import Curfew.Proofs.Yaml.Composing
import Curfew.Proofs.Yaml.Merging
import Curfew.Yaml.Reading

/-! What making the value of a document may stop with. Merging, keys and collections are refused as malformed. So all
that else comes up is of a node whose tag calls for a value that its text does not give. -/

namespace Curfew.Yaml
variable {g₀ g : Graph} {id : NodeId} {text : List Char} {α : Type}

/-- The tags that a text may be given without spelling one of their values. -/
def Tag.isExacting (tag : Tag) : Bool := tag = .bool || tag = .int || tag = .float || tag = .timestamp

/-- A node of a graph has the tag of a value that its text does not give. A time must have a text of its own. -/
def Graph.Misfit (g : Graph) (fault : Fault) : Prop :=
  ∃ id, (g.tag id).isExacting ∧ ((∃ text, g.Spells text id ∧ Scalar.value (g.tag id) text = .error fault) ∨
    g.tag id = .timestamp ∧ (g.pairs? id).isSome ∧ fault = .timeWithoutText)

/-- What may come up where a value is made of a graph. -/
def MakeFault (g : Graph) (fault : Fault) : Prop := fault.BreaksRules ∨ g.Misfit fault

theorem MakeFault.malformed : MakeFault g .malformed := .inl (.inl rfl)

/-! ### Scalars -/

namespace Making

end Making

end Curfew.Yaml
