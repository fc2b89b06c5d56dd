import Curfew.Proofs.Host.Reach

/-! Setting the mode or the group of one entry. Either changes what is seen at the location of its path
and at no other one, and it can only fail where it changes nothing. -/

namespace Curfew

/-- What is seen of an entry after its group was set. -/
def EntryInfo.chgrp (gid : Option Nat) (i : EntryInfo) : EntryInfo :=
  { i with mode := if i.kind = .file then Entry.modeAfterChgrp i.mode else i.mode, gid := gid.getD i.gid }

theorem Entry.info_chgrp (gid : Option Nat) (e : Entry) : (e.chgrp gid).info = e.info.chgrp gid := by
  cases e <;> rfl

theorem Entry.info_withMode (mode : Mode) {e : Entry} (h : e.info.kind ≠ .link) :
    (e.withMode mode).info = { e.info with mode } := by
  cases e with
  | file => rfl
  | directory => rfl
  | link => exact absurd rfl h

theorem Entry.hasLink_iff {disk : Entry} {l : Location} :
    disk.HasLink l ↔ ∃ i, disk.infoAt l = some i ∧ i.kind = .link := by
  unfold Entry.HasLink Entry.infoAt
  constructor
  · rintro ⟨gid, target, h⟩
    exact ⟨_, by rw [h]; rfl, rfl⟩
  · rintro ⟨i, hi, hk⟩
    obtain ⟨e, he, rfl⟩ := Option.map_eq_some_iff.mp hi
    cases e with
    | link gid target => exact ⟨gid, target, he⟩
    | file => cases hk
    | directory => cases hk

namespace Host
variable {h h' h'' : Host} {p : Path} {l : Location} {i j : EntryInfo}

/-- One host is another with what is seen at one location replaced. -/
structure Sets (h h' : Host) (l : Location) (i : EntryInfo) : Prop extends SameShape h h' where
  infoAt : ∀ k, h'.disk.infoAt k = if k = l then some i else h.disk.infoAt k

theorem Sets.refl (hi : h.disk.infoAt l = some i) : Sets h h l i where
  toSameShape := .refl h
  infoAt k := by
    split
    · subst k
      exact hi
    · rfl

theorem Sets.trans (h₁ : Sets h h' l i) (h₂ : Sets h' h'' l j) : Sets h h'' l j where
  toSameShape := h₁.toSameShape.trans h₂.toSameShape
  infoAt k := by
    rw [h₂.infoAt, h₁.infoAt]
    split <;> rfl

theorem sets_changeAt {f : Entry → Entry} (hf : Entry.KeepsShape f) {e : Entry} (he : h.disk.get? l = some e) :
    Sets h (h.changeAt l f) l (f e).info where
  rest := rfl
  shape := hf.shape_change l h.disk
  infoAt k := by
    show (Entry.change f l h.disk).infoAt k = _
    rw [hf.infoAt_change, he]
    rfl

theorem asUnavailable_eq_ok {α : Type} {x : Except DiskFault α} {a : α} :
    asUnavailable p x = .ok a ↔ x = .ok a := by
  unfold asUnavailable
  split <;> simp

/-! ### Groups -/

theorem wantedGroup_natCast {gid : Nat} {wanted : Option Nat} (hw : wantedGroup gid = .ok wanted) :
    wanted = if (gid : Int) = noGroup then none else some gid := by
  unfold wantedGroup at hw
  have hneg : (gid : Int) ≠ -1 := by omega
  simp only [hneg, false_or] at hw
  split at hw
  · rename_i hno
    rw [if_pos hno]
    exact (Except.ok.inj hw).symm
  · rename_i hno
    rw [if_neg hno]
    split at hw
    · exact (Except.ok.inj hw).symm
    · cases hw

/-- A group that was set is set at the location of the path. -/
theorem chgrp_inv {gid : Nat} (hc : h.chgrp p gid = .ok h') :
    ∃ l e, h.look p false = .ok (l, e) ∧
      h' = h.changeAt l (Entry.chgrp (if (gid : Int) = noGroup then none else some gid)) := by
  unfold chgrp at hc
  rw [asUnavailable_eq_ok] at hc
  unfold setGroup at hc
  cases hw : wantedGroup gid with
  | error fault => simp [hw, bind, Except.bind] at hc
  | ok wanted =>
    cases hl : h.look p false with
    | error fault => simp [hw, hl, bind, Except.bind] at hc
    | ok found =>
      obtain ⟨l, e⟩ := found
      simp only [hw, hl, bind, Except.bind] at hc
      split at hc
      · refine ⟨l, e, rfl, ?_⟩
        rw [← wantedGroup_natCast hw]
        exact (Except.ok.inj hc).symm
      · cases hc

theorem chgrp_sets {gid : Nat} (hl : h.locate p false = .ok l) (hi : h.disk.infoAt l = some i)
    (hc : h.chgrp p gid = .ok h') :
    Sets h h' l (i.chgrp (if (gid : Int) = noGroup then none else some gid)) := by
  obtain ⟨k, e, hk, rfl⟩ := chgrp_inv hc
  rw [look_eq_ok] at hk
  obtain rfl : k = l := Except.ok.inj (hk.1.symm.trans hl)
  obtain rfl : e.info = i := by simpa [Entry.infoAt, hk.2] using hi
  rw [← Entry.info_chgrp]
  exact sets_changeAt (.chgrp _) hk.2

/-- A group that the caller may give can be set. -/
theorem chgrp_of_mayChangeGroup {gid : Nat} {wanted : Option Nat} (hl : h.locate p false = .ok l)
    (hi : h.disk.infoAt l = some i) (hw : wantedGroup gid = .ok wanted) (hmay : h.mayChangeGroup i.gid wanted = true) :
    ∃ h', h.chgrp p gid = .ok h' := by
  obtain ⟨e, he, rfl⟩ := Option.map_eq_some_iff.mp hi
  refine ⟨h.changeAt l (Entry.chgrp wanted), asUnavailable_eq_ok.mpr ?_⟩
  unfold setGroup
  simp only [hw, look_eq_ok.mpr ⟨hl, he⟩, bind, Except.bind, hmay, ↓reduceIte]
  rfl

/-! ### Modes -/

/-- The mode of what is there and no link can always be set. -/
theorem chmod_sets (mode : Mode) (hl : h.locate p false = .ok l) (hi : h.disk.infoAt l = some i)
    (hk : i.kind ≠ .link) :
    ∃ h', (h.chmod p mode).outcome = .ok h' ∧ Sets h h' l { i with mode } := by
  obtain ⟨e, he, rfl⟩ := Option.map_eq_some_iff.mp hi
  have hnot : ¬h.disk.HasLink l := fun hlink => by
    obtain ⟨j, hj, hjk⟩ := Entry.hasLink_iff.mp hlink
    exact hk (Option.some.inj (hi.symm.trans hj) ▸ hjk)
  have hlink : h.isLink p = .ok false := by
    unfold isLink test
    simp only [look_eq_ok.mpr ⟨hl, he⟩, Except.ok.injEq]
    cases e with
    | link => exact absurd rfl hk
    | file => rfl
    | directory => rfl
  have hfollow : h.look p true = .ok (l, e) := by
    obtain ⟨htext, hfound⟩ := locate_eq_ok.mp hl
    exact look_eq_ok.mpr ⟨locate_eq_ok.mpr ⟨htext, Resolved.ofNames_follow hnot _ _ _ hfound⟩, he⟩
  refine ⟨h.changeAt l (Entry.withMode mode), ?_, ?_⟩
  · have hset : h.setMode p mode = .ok (h.changeAt l (Entry.withMode mode)) := by
      unfold setMode
      rw [hfollow]
      rfl
    unfold chmod
    rw [hlink, hset]
    rfl
  · rw [← Entry.info_withMode mode hk]
    exact sets_changeAt (.withMode mode) he

end Host

end Curfew
