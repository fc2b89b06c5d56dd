import Curfew.Config.Fragment
import Curfew.Proofs.Disk.Shape

/-! Well-formed disks, as every system keeps them: the entries of a directory have names of their own, and
each name is one component of a path. -/

namespace Curfew
namespace Entry

mutual

def WellFormed : Entry → Prop
  | .directory _ children => (children.map (·.1)).Nodup ∧ AllWellFormed children
  | _ => True

def AllWellFormed : List (String × Entry) → Prop
  | [] => True
  | (name, entry) :: rest => Fragment.isSegment name = true ∧ WellFormed entry ∧ AllWellFormed rest

end

mutual

def decidableWellFormed : ∀ e : Entry, Decidable e.WellFormed
  | .file _ _ => .isTrue trivial
  | .directory _ children =>
    have := decidableAllWellFormed children
    inferInstanceAs (Decidable (_ ∧ _))
  | .link _ _ => .isTrue trivial

def decidableAllWellFormed : ∀ children : List (String × Entry), Decidable (AllWellFormed children)
  | [] => .isTrue trivial
  | (_, entry) :: rest =>
    have := decidableWellFormed entry
    have := decidableAllWellFormed rest
    inferInstanceAs (Decidable (_ ∧ _ ∧ _))

end

instance (e : Entry) : Decidable e.WellFormed := decidableWellFormed e

theorem allWellFormed_iff : ∀ {children : List (String × Entry)},
    AllWellFormed children ↔ ∀ child ∈ children, Fragment.isSegment child.1 = true ∧ child.2.WellFormed
  | [] => by simp [AllWellFormed]
  | (name, entry) :: rest => by
    have ih : AllWellFormed rest ↔ _ := allWellFormed_iff
    simp [AllWellFormed, ih, and_assoc]

theorem mem_of_lookup {α : Type} {name : String} {a : α} :
    ∀ {children : List (String × α)}, children.lookup name = some a → (name, a) ∈ children
  | (n, b) :: rest, h => by
    rw [lookup_cons_if] at h
    split at h
    · rename_i hn
      cases h
      exact hn ▸ List.mem_cons_self
    · exact List.mem_cons_of_mem _ (mem_of_lookup h)

theorem WellFormed.get? {l : Location} : ∀ {e f : Entry}, e.WellFormed → e.get? l = some f → f.WellFormed := by
  induction l with
  | nil =>
    intro e f he hf
    cases hf
    exact he
  | cons name names ih =>
    rintro (⟨a, content⟩ | ⟨a, children⟩ | ⟨gid, target⟩) f he hf
    · cases hf
    · obtain ⟨child, hc, hf⟩ := Option.bind_eq_some_iff.mp hf
      exact ih (allWellFormed_iff.mp he.2 _ (mem_of_lookup hc)).2 hf
    · cases hf

end Entry

end Curfew
