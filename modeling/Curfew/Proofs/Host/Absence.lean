import Curfew.Proofs.Host.Ways

/-! Paths that lead to no entry. There are several ways for a path not to exist, and which of them it is decides the fault
that comes of looking at it: only a name that a directory lacks makes the path unavailable. -/

namespace Curfew
namespace Host

open Resolved

/-- On the way along a path one comes to a location with these names still to go. -/
def OnWay (h : Host) (p : Path) (l : Location) (names : List String) : Prop :=
  ∃ links ≤ mostLinks, Way h.disk false links (h.start p) p.names l names

/-- On the way along a path a directory lacks the next name. -/
def Lacks (h : Host) (p : Path) : Prop := ∃ l name rest a children, h.OnWay p l (name :: rest) ∧
  h.disk.get? l = some (.directory a children) ∧ children.lookup name = none ∧ (name ≠ "." ∧ name ≠ "..") ∧
  ¬longestName < Text.Utf8.size name

/-- On the way along a path something that is no directory has names still to go behind it. -/
def Blocked (h : Host) (p : Path) : Prop := ∃ l name rest e, h.OnWay p l (name :: rest) ∧ h.disk.get? l = some e ∧
  ∀ a children, e ≠ .directory a children

/-- On the way along a path the next name in a directory is longer than a name can be. -/
def Overlong (h : Host) (p : Path) : Prop := ∃ l name rest a children, h.OnWay p l (name :: rest) ∧
  h.disk.get? l = some (.directory a children) ∧ (name ≠ "." ∧ name ≠ "..") ∧ longestName < Text.Utf8.size name

/-- Behind as many links as are followed there is one more on the way along a path. -/
def Loops (h : Host) (p : Path) : Prop := ∃ l name rest target, Way h.disk false mostLinks (h.start p) p.names l (name :: rest) ∧
  rest ≠ [] ∧ turn h.disk l name = .link target

/-- The ways for a path to lead to no entry, each with the fault that comes of looking at the path. -/
inductive Absence (h : Host) (p : Path) : DiskFault → Prop
  | lacking : checkText p.text = .ok () → h.Lacks p → Absence h p (.pathUnavailable p)
  | blocked : checkText p.text = .ok () → h.Blocked p → Absence h p (.system .notDirectory p)
  | overlong : checkText p.text = .ok () → h.Overlong p → Absence h p (.system .nameTooLong p)
  | looping : checkText p.text = .ok () → h.Loops p → Absence h p (.system .tooManyLinks p)
  | unasked {fault : DiskFault} : checkText p.text = .error fault → Absence h p fault

variable {h : Host} {p : Path} {l : Location} {e : Entry} {fault : DiskFault} {error : SystemError}

/-! ### What looking comes to -/

theorem stat_of_look (hl : h.look p false = .ok (l, e)) : h.stat p = .ok e.info := by
  unfold stat
  rw [hl]
  rfl

theorem stat_of_resolve (hr : h.resolve p false = .error fault) (hf : ∀ q, fault ≠ .system .notFound q) :
    h.stat p = .error fault := by
  unfold stat look locate
  rw [hr]
  show asUnavailable p (.error fault) = .error fault
  unfold asUnavailable
  split
  · rename_i q heq
    exact absurd (Except.error.inj heq) (hf q)
  · rfl

theorem stat_of_nowhere (hr : (∃ directory name, h.resolve p false = .ok (.missing directory name)) ∨
    ∃ q, h.resolve p false = .error (.system .notFound q)) : h.stat p = .error (.pathUnavailable p) := by
  unfold stat look locate
  rcases hr with ⟨directory, name, hr⟩ | ⟨q, hr⟩ <;> rw [hr] <;> rfl

theorem resolve_of_checkText (hc : checkText p.text = .error fault) (follow : Bool) : h.resolve p follow = .error fault := by
  unfold resolve ofPath
  rw [hc]
  rfl

theorem resolve_of_stops {follow : Bool} {r : Except SystemError Resolved} (hc : checkText p.text = .ok ())
    (hs : Stops h.disk follow mostLinks (h.start p) p.names r) : h.resolve p follow = r.mapError (.system · p) := by
  unfold resolve ofPath
  rw [hc, ← ofNames_eq_iff.mpr hs]
  rfl

/-- What the system cannot be asked for. -/
theorem checkText_eq_error {text : String} (hc : checkText text = .error fault) :
    fault = .surrogate ∨ fault = .nullCharacter ∨ fault = .system .nameTooLong (.ofText text) := by
  unfold checkText at hc
  split at hc
  · exact Or.inl (Except.error.inj hc).symm
  · split at hc
    · exact Or.inr (Or.inl (Except.error.inj hc).symm)
    · split at hc
      · exact Or.inr (Or.inr (Except.error.inj hc).symm)
      · cases hc

/-! ### The fault tells the way -/

theorem OnWay.stops {names : List String} (hw : h.OnWay p l names) {r : Except SystemError Resolved}
    (hs : ∀ left, Stop h.disk false left l names r) : Stops h.disk false mostLinks (h.start p) p.names r := by
  obtain ⟨links, hle, hw⟩ := hw
  exact ⟨links, mostLinks - links, l, names, by omega, hw, hs _⟩

theorem stat_of_absence (ha : h.Absence p fault) : h.stat p = .error fault := by
  cases ha with
  | lacking hc hlacks =>
    obtain ⟨l, name, rest, a, children, hw, hd, hfree, hdots, hshort⟩ := hlacks
    have hr := resolve_of_stops hc (hw.stops fun _ => .free rest (turn_eq_free.mpr ⟨hdots, hshort, a, children, hd, hfree⟩))
    apply stat_of_nowhere
    by_cases hrest : rest = []
    · rw [if_pos hrest] at hr
      exact Or.inl ⟨l, name, hr⟩
    · rw [if_neg hrest] at hr
      exact Or.inr ⟨p, hr⟩
  | blocked hc hblocked =>
    obtain ⟨l, name, rest, e, hw, he, hother⟩ := hblocked
    have hnone : ∀ a children, h.disk.get? l ≠ some (.directory a children) := fun a children hd =>
      hother a children (Option.some.inj (he.symm.trans hd))
    have hr := resolve_of_stops hc (hw.stops fun _ => .fault rest (turn_of_not_directory hnone name))
    exact stat_of_resolve hr (by simp)
  | overlong hc hoverlong =>
    obtain ⟨l, name, rest, a, children, hw, hd, hdots, hlong⟩ := hoverlong
    have hr := resolve_of_stops hc (hw.stops fun _ => .fault rest (turn_of_tooLong hd hdots hlong))
    exact stat_of_resolve hr (by simp)
  | looping hc hloops =>
    obtain ⟨l, name, rest, target, hw, hrest, ht⟩ := hloops
    have hr := resolve_of_stops hc ⟨mostLinks, 0, l, name :: rest, by omega, hw, .noLinkLeft rfl ht (Or.inl hrest)⟩
    exact stat_of_resolve hr (by simp)
  | unasked hc =>
    refine stat_of_resolve (resolve_of_checkText hc false) ?_
    rcases checkText_eq_error hc with rfl | rfl | rfl <;> simp

/-- Either there is an entry, or the path is absent in one of the ways. -/
theorem look_or_absence (hstart : ∃ e, h.disk.get? (h.start p) = some e) :
    (∃ l e, h.look p false = .ok (l, e)) ∨ ∃ fault, h.Absence p fault := by
  cases hc : checkText p.text with
  | error fault => exact Or.inr ⟨fault, .unasked hc⟩
  | ok u =>
    obtain ⟨n, left, l, more, hlinks, hw, hstop⟩ := stops h.disk false mostLinks p.names (h.start p)
    have hway : h.OnWay p l more := ⟨n, by omega, hw⟩
    obtain ⟨e, he⟩ := hw.exists_entry hstart
    have hfound : ∀ {l e}, ofNames h.disk false mostLinks (h.start p) p.names = .ok (.found l) → h.disk.get? l = some e →
        ∃ l e, h.look p false = .ok (l, e) :=
      fun hl he => ⟨_, _, look_eq_ok.mpr ⟨locate_eq_ok.mpr ⟨hc, hl⟩, he⟩⟩
    generalize ofNames h.disk false mostLinks (h.start p) p.names = r at hstop hfound
    cases hstop with
    | done => exact Or.inl (hfound rfl he)
    | lastLink _ ht =>
      obtain ⟨gid, target, hlink⟩ := hasLink_of_turn ht
      exact Or.inl (hfound rfl hlink)
    | free rest ht =>
      obtain ⟨hdots, hshort, a, children, hd, hfree⟩ := turn_eq_free.mp ht
      exact Or.inr ⟨_, .lacking hc ⟨l, _, rest, a, children, hway, hd, hfree, hdots, hshort⟩⟩
    | fault rest ht =>
      rcases turn_eq_fault.mp ht with ⟨-, hnone⟩ | ⟨-, hdots, hlong, a, children, hd⟩
      · exact Or.inr ⟨_, .blocked hc ⟨l, _, rest, e, hway, he, fun a children heq => hnone a children (heq ▸ he)⟩⟩
      · exact Or.inr ⟨_, .overlong hc ⟨l, _, rest, a, children, hway, hd, hdots, hlong⟩⟩
    | noLinkLeft hleft ht hon =>
      obtain rfl : n = mostLinks := by omega
      exact Or.inr ⟨_, .looping hc ⟨l, _, _, _, hw, by simpa using hon, ht⟩⟩

/-- The fault of looking at a path tells how it is absent. -/
theorem stat_eq_error (hstart : ∃ e, h.disk.get? (h.start p) = some e) : h.stat p = .error fault ↔ h.Absence p fault := by
  refine ⟨fun hs => ?_, stat_of_absence⟩
  rcases look_or_absence hstart with ⟨l, e, hl⟩ | ⟨fault', ha⟩
  · cases hs.symm.trans (stat_of_look hl)
  · obtain rfl := Except.error.inj (hs.symm.trans (stat_of_absence ha))
    exact ha

/-- A path is unavailable just if a directory on the way lacks the next name. -/
theorem Absence.eq_unavailable_iff (ha : h.Absence p fault) (q : Path) :
    fault = .pathUnavailable q ↔ q = p ∧ checkText p.text = .ok () ∧ h.Lacks p := by
  constructor
  · rintro rfl
    generalize hq : DiskFault.pathUnavailable q = fault at ha
    cases ha with
    | lacking hc hlacks => exact ⟨DiskFault.pathUnavailable.inj hq, hc, hlacks⟩
    | blocked | overlong | looping => cases hq
    | unasked hc =>
      subst hq
      rcases checkText_eq_error hc with hf | hf | hf <;> cases hf
  · rintro ⟨rfl, hc, hlacks⟩
    exact Except.error.inj ((stat_of_absence ha).symm.trans (stat_of_absence (.lacking hc hlacks)))

end Host

end Curfew
