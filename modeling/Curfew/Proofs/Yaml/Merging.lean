import Curfew.Proofs.Steps
import Curfew.Yaml.Merge
import Mathlib.Data.List.TakeDrop

/-! What merging makes of the nodes of a document. Pairs come and go and keys that stand for a value become texts, but no
node gets another text, and no mapping gets to stand for what it did not stand for before. -/

namespace Curfew.Yaml

namespace Graph

/-- A mapping has a value under a key that stands for it. -/
def StandsFor (g : Graph) (id value : NodeId) : Prop :=
  ∃ pairs key, g.pairs? id = some pairs ∧ (key, value) ∈ pairs ∧ g.tag key = .default

/-- A node has a text, its own or that of what it stands for. -/
inductive Spells (g : Graph) (text : List Char) : NodeId → Prop
  | own {id : NodeId} : (g.node id).content = .scalar text → Spells g text id
  | under {id value : NodeId} : g.StandsFor id value → Spells g text value → Spells g text id

/-- What may become of a graph where mappings are merged. -/
structure MergesTo (g g' : Graph) : Prop where
  tag : ∀ id, g'.tag id = g.tag id ∨ g.tag id = .default ∧ g'.tag id = .text
  scalar : ∀ id text, (g'.node id).content = .scalar text → (g.node id).content = .scalar text
  mapping : ∀ id, (g'.pairs? id).isSome → (g.pairs? id).isSome
  standsFor : ∀ id value, g'.StandsFor id value → g.StandsFor id value

variable {g g' : Graph} {id : NodeId} {text : List Char} {pairs : List (NodeId × NodeId)}

theorem MergesTo.refl (g : Graph) : g.MergesTo g := ⟨fun _ => .inl rfl, fun _ _ h => h, fun _ h => h, fun _ _ h => h⟩

theorem MergesTo.trans {g'' : Graph} (h : g.MergesTo g') (h' : g'.MergesTo g'') : g.MergesTo g'' where
  tag id := by
    rcases h.tag id with hsame | ⟨hdefault, htext⟩ <;> rcases h'.tag id with hsame' | ⟨hdefault', htext'⟩
    · exact .inl (hsame'.trans hsame)
    · exact .inr ⟨hsame ▸ hdefault', htext'⟩
    · exact .inr ⟨hdefault, hsame'.trans htext⟩
    · exact .inr ⟨hdefault, htext'⟩
  scalar id text ht := h.scalar id text (h'.scalar id text ht)
  mapping id hm := h.mapping id (h'.mapping id hm)
  standsFor id value hs := h.standsFor id value (h'.standsFor id value hs)

theorem MergesTo.tag_ne_default (h : g.MergesTo g') (hne : g.tag id ≠ .default) : g'.tag id ≠ .default := by
  rcases h.tag id with hsame | ⟨hdefault, -⟩
  · exact hsame ▸ hne
  · exact absurd hdefault hne

/-! ### Changes of one node -/

end Graph

/-! ### Steps of merging -/

namespace Merging
variable {g₀ g : Graph} {id : NodeId} {ps qs : List (NodeId × NodeId)}

/-- The graph is one that merging makes of the first, and no key of the pairs stands for a value. -/
structure Inv (g₀ : Graph) (ps : List (NodeId × NodeId)) (g : Graph) : Prop where
  mergesTo : g₀.MergesTo g
  settled : ∀ pair ∈ ps, g.tag pair.1 ≠ .default

theorem Inv.mono (h : Inv g₀ ps g) (hsub : ∀ pair ∈ qs, pair ∈ ps) : Inv g₀ qs g :=
  ⟨h.mergesTo, fun pair hpair => h.settled pair (hsub pair hpair)⟩

theorem Inv.append (h : Inv g₀ ps g) (hq : ∀ pair ∈ qs, g.tag pair.1 ≠ .default) : Inv g₀ (qs ++ ps) g :=
  ⟨h.mergesTo, fun pair hpair => (List.mem_append.mp hpair).elim (hq pair) (h.settled pair)⟩

theorem Inv.step {g' : Graph} (h : Inv g₀ ps g) (hg : g.MergesTo g') : Inv g₀ ps g' :=
  ⟨h.mergesTo.trans hg, fun pair hpair => hg.tag_ne_default (h.settled pair hpair)⟩

end Merging

end Curfew.Yaml
