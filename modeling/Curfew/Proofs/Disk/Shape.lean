import Curfew.Disk.Entry

/-! The shape of a disk: its names, contents and links without modes and groups. A change to the
attributes of one entry keeps the shape, and what is seen at every other location. -/

namespace Curfew
namespace Entry

mutual

/-- The entry without its attributes and those of all entries below it. -/
def shape : Entry → Entry
  | .file _ content => .file { mode := 0, gid := 0 } content
  | .directory _ children => .directory { mode := 0, gid := 0 } (shapes children)
  | .link _ target => .link 0 target

def shapes : List (String × Entry) → List (String × Entry)
  | [] => []
  | (name, entry) :: rest => (name, shape entry) :: shapes rest

end

/-- What can be seen at a location. -/
def infoAt (disk : Entry) (location : Location) : Option EntryInfo := (disk.get? location).map info

/-! ### Looking into a shape -/

theorem lookup_shapes (name : String) :
    ∀ children, (shapes children).lookup name = (children.lookup name).map shape
  | [] => rfl
  | (n, e) :: rest => by
    rw [shapes, List.lookup_cons, List.lookup_cons]
    cases hn : name == n
    · exact lookup_shapes name rest
    · rfl

theorem get?_shape (l : Location) : ∀ e : Entry, e.shape.get? l = (e.get? l).map shape := by
  induction l with
  | nil => exact fun e => rfl
  | cons name names ih =>
    rintro (⟨a, content⟩ | ⟨a, children⟩ | ⟨gid, target⟩)
    · rfl
    · simp only [shape, get?, lookup_shapes]
      cases children.lookup name with
      | none => rfl
      | some child => exact ih child
    · rfl

theorem get?_append (l k : Location) : ∀ e : Entry, e.get? (l ++ k) = (e.get? l).bind (get? k) := by
  induction l with
  | nil => exact fun e => rfl
  | cons name names ih =>
    rintro (⟨a, content⟩ | ⟨a, children⟩ | ⟨gid, target⟩)
    · rfl
    · simp only [List.cons_append, get?]
      cases children.lookup name with
      | none => rfl
      | some child => exact ih child
    · rfl

/-! ### Changes to one entry -/

theorem lookup_cons_if {α : Type} (n m : String) (a : α) (rest : List (String × α)) :
    ((m, a) :: rest).lookup n = if n = m then some a else rest.lookup n := by
  by_cases h : n = m
  · subst h
    simp
  · rw [List.lookup_cons, beq_false_of_ne h, if_neg h]

/-- Where each name comes once, each item is found under its name. -/
theorem lookup_of_mem {α : Type} {children : List (String × α)} {child : String × α}
    (hn : (children.map (·.1)).Nodup) (hc : child ∈ children) : children.lookup child.1 = some child.2 := by
  obtain ⟨before, after, rfl⟩ := List.append_of_mem hc
  refine List.lookup_eq_some_iff.mpr ⟨before, after, rfl, fun c hb => ?_⟩
  rw [List.map_append, List.nodup_append] at hn
  exact bne_iff_ne.mpr (Ne.symm (hn.2.2 c.1 (List.mem_map_of_mem hb) child.1 (by simp)))

theorem lookup_changeChild (name n : String) (f : Entry → Entry) : ∀ children : List (String × Entry),
    (changeChild name f children).lookup n =
      if n = name then (children.lookup name).map f else children.lookup n
  | [] => by simp [changeChild]
  | (m, e) :: rest => by
    have ih := lookup_changeChild name n f rest
    unfold changeChild
    by_cases hm : m = name
    · subst hm
      by_cases hn : n = m <;> simp [lookup_cons_if, hn]
    · simp only [hm, ↓reduceIte, lookup_cons_if, ih]
      by_cases hn : n = name
      · subst hn
        simp [Ne.symm hm]
      · simp [hn]

/-- A change that bears on the attributes of an entry alone. -/
structure KeepsShape (f : Entry → Entry) : Prop where
  shape : ∀ e, (f e).shape = e.shape
  below : ∀ e l, l ≠ [] → (f e).get? l = e.get? l

theorem shapes_changeChild {f : Entry → Entry} (hf : ∀ e, (f e).shape = e.shape) (name : String) :
    ∀ children, shapes (changeChild name f children) = shapes children
  | [] => rfl
  | (n, e) :: rest => by
    unfold changeChild
    by_cases hn : n = name
    · simp [hn, shapes, hf]
    · simp [hn, shapes, shapes_changeChild hf name rest]

namespace KeepsShape
variable {f : Entry → Entry}

theorem shape_change (hf : KeepsShape f) (l : Location) : ∀ e, (change f l e).shape = e.shape := by
  induction l with
  | nil => exact hf.shape
  | cons name names ih =>
    rintro (⟨a, content⟩ | ⟨a, children⟩ | ⟨gid, target⟩)
    · rfl
    · simp only [change, Entry.shape, shapes_changeChild ih]
    · rfl

/-- A change at one location shows there and nowhere else. -/
theorem infoAt_change (hf : KeepsShape f) (l : Location) : ∀ (e : Entry) (k : Location),
    (change f l e).infoAt k = if k = l then (e.get? l).map fun e => (f e).info else e.infoAt k := by
  induction l with
  | nil =>
    intro e k
    by_cases hk : k = []
    · subst hk
      rfl
    · simp only [change, infoAt, hf.below e k hk, hk, ↓reduceIte]
  | cons name names ih =>
    rintro (⟨a, content⟩ | ⟨a, children⟩ | ⟨gid, target⟩) k
    · by_cases hk : k = name :: names <;> simp [change, infoAt, get?, hk]
    · cases k with
      | nil => rfl
      | cons n ns =>
        simp only [change, infoAt, get?, lookup_changeChild, List.cons.injEq]
        by_cases hn : n = name
        · subst hn
          simp only [↓reduceIte, true_and]
          cases children.lookup n with
          | none => simp
          | some child => exact ih child ns
        · simp [hn]
    · by_cases hk : k = name :: names <;> simp [change, infoAt, get?, hk]

theorem withMode (mode : Mode) : KeepsShape (Entry.withMode mode) where
  shape e := by cases e <;> rfl
  below e l hl := by
    cases l with
    | nil => exact absurd rfl hl
    | cons => cases e <;> rfl

theorem chgrp (gid : Option Nat) : KeepsShape (Entry.chgrp gid) where
  shape e := by cases e <;> rfl
  below e l hl := by
    cases l with
    | nil => exact absurd rfl hl
    | cons => cases e <;> rfl

end KeepsShape

end Entry

end Curfew
