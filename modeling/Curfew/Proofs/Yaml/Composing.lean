import Curfew.Proofs.Yaml.Tokens
import Curfew.Yaml.Document

/-! What making the nodes of a text may stop with. The grammar refuses tokens as malformed, and all other faults are
those of the tokens. -/

namespace Curfew.Yaml
variable {source : Source} {α β : Type}

/-- Steps that make nodes of what they read in a source. -/
abbrev Composes (source : Source) (m : Composing α) : Prop :=
  Keeps (fun s => s.progress.Of source) (ReadFault source) m

namespace Composing

theorem fail_composes : Composes source (fail : Composing α) := Keeps.throw .malformed

/-- All rules of the grammar with so much fuel. -/
structure RulesCompose (source : Source) (fuel : Nat) : Prop where
  node : ∀ place, Composes source (node place fuel)
  blockItems : Composes source (blockItems fuel)
  looseItems : Composes source (looseItems fuel)
  blockValue : Composes source (blockValue fuel)
  blockPairs : Composes source (blockPairs fuel)
  flowValue : ∀ closing, Composes source (flowValue closing fuel)
  flowPair : ∀ closing, Composes source (flowPair closing fuel)
  flowItems : ∀ isFirst, Composes source (flowItems isFirst fuel)
  flowPairs : ∀ isFirst, Composes source (flowPairs isFirst fuel)

namespace RulesCompose
variable {fuel : Nat}

theorem zero : RulesCompose source 0 :=
  ⟨fun _ => fail_composes, fail_composes, fail_composes, fail_composes, fail_composes, fun _ => fail_composes,
    fun _ => fail_composes, fun _ => fail_composes, fun _ => fail_composes⟩

end RulesCompose

end Composing

end Curfew.Yaml
