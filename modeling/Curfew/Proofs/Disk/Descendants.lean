import Curfew.Proofs.Disk.WellFormed

/-! Everything below a directory. What names lead to from a directory, down through real directories, is listed below
it. -/

namespace Curfew
namespace Entry

theorem exists_of_get?_cons {e f : Entry} {name : String} {names : List String} (h : e.get? (name :: names) = some f) :
    ∃ a children child, e = .directory a children ∧ children.lookup name = some child ∧ child.get? names = some f := by
  cases e with
  | directory a children =>
    obtain ⟨child, hc, hf⟩ := Option.bind_eq_some_iff.mp h
    exact ⟨a, children, child, rfl, hc, hf⟩
  | file => cases h
  | link => cases h

theorem get?_directory {disk e : Entry} {l : Location} {a : Attributes} {children : List (String × Entry)} {name : String}
    (hl : disk.get? l = some (.directory a children)) (hc : children.lookup name = some e) (names : List String) :
    disk.get? (l ++ name :: names) = e.get? names := by
  rw [get?_append, hl]
  simp [get?, hc]

theorem mem_allDescendants {found : List String × Entry} : ∀ {children : List (String × Entry)},
    found ∈ allDescendants children ↔ ∃ child ∈ children,
      found = ([child.1], child.2) ∨ ∃ below ∈ child.2.descendants, found = (child.1 :: below.1, below.2)
  | [] => by simp [allDescendants]
  | (name, entry) :: rest => by
    have ih : found ∈ allDescendants rest ↔ _ := mem_allDescendants
    rw [allDescendants, List.cons_append, List.mem_cons, List.mem_append, List.mem_map, ih]
    simp only [List.mem_cons, exists_eq_or_imp, or_assoc, eq_comm]

/-- What names lead to is listed. -/
theorem mem_allDescendants_of_get? {names : List String} : ∀ {children : List (String × Entry)} {child : String × Entry}
    {f : Entry}, child ∈ children → child.2.get? names = some f → (child.1 :: names, f) ∈ allDescendants children := by
  induction names with
  | nil =>
    intro children child f hc hf
    cases hf
    exact mem_allDescendants.mpr ⟨child, hc, Or.inl rfl⟩
  | cons name names ih =>
    intro children child f hc hf
    obtain ⟨a, entries, e, hchild, he, hf⟩ := exists_of_get?_cons hf
    have hbelow : (name :: names, f) ∈ child.2.descendants := by
      rw [hchild, descendants]
      exact ih (mem_of_lookup he) hf
    exact mem_allDescendants.mpr ⟨child, hc, Or.inr ⟨_, hbelow, rfl⟩⟩

theorem mem_descendants_of_get? {e f : Entry} {name : String} {names : List String}
    (hf : e.get? (name :: names) = some f) : (name :: names, f) ∈ e.descendants := by
  obtain ⟨a, children, child, rfl, hc, hf⟩ := exists_of_get?_cons hf
  exact mem_allDescendants_of_get? (mem_of_lookup hc) hf

/-- The names that lead to an entry of a well-formed disk are segments. -/
theorem WellFormed.isSegment_of_get? {names : List String} : ∀ {e f : Entry}, e.WellFormed → e.get? names = some f →
    ∀ name ∈ names, Fragment.isSegment name = true := by
  induction names with
  | nil => simp
  | cons name names ih =>
    intro e f he hf
    obtain ⟨a, children, child, rfl, hc, hf⟩ := exists_of_get?_cons hf
    have hchild := allWellFormed_iff.mp he.2 _ (mem_of_lookup hc)
    exact List.forall_mem_cons.mpr ⟨hchild.1, ih hchild.2 hf⟩

mutual

/-- The names that everything below an entry of a well-formed disk is listed under are segments. -/
theorem isSegment_of_mem_descendants : ∀ {e : Entry}, e.WellFormed → ∀ found ∈ e.descendants,
    ∀ name ∈ found.1, Fragment.isSegment name = true
  | .file _ _, _, _, hf => by simp [descendants] at hf
  | .directory _ children, he, found, hf => isSegment_of_mem_allDescendants he.2 found (by rwa [descendants] at hf)
  | .link _ _, _, _, hf => by simp [descendants] at hf

theorem isSegment_of_mem_allDescendants : ∀ {children : List (String × Entry)}, AllWellFormed children →
    ∀ found ∈ allDescendants children, ∀ name ∈ found.1, Fragment.isSegment name = true
  | [], _, _, hf => by simp [allDescendants] at hf
  | (name, entry) :: rest, ⟨hname, hentry, hrest⟩, found, hf => by
    rw [allDescendants, List.cons_append, List.mem_cons, List.mem_append, List.mem_map] at hf
    rcases hf with rfl | ⟨below, hbelow, rfl⟩ | hf
    · simpa using hname
    · exact List.forall_mem_cons.mpr ⟨hname, isSegment_of_mem_descendants hentry below hbelow⟩
    · exact isSegment_of_mem_allDescendants hrest found hf

end

end Entry

end Curfew
