import Curfew.Proofs.Tree.Located

/-! Which entries a run can change. What is changed lies below the root of the tree, unless the path of a node goes
through a link: links are followed there as everywhere above the last name of a path. -/

namespace Curfew

namespace Tree

section
variable {h₀ h : Host} {config : Value} {root : Path} {t : Tree}

/-- An entry that a run changes is one that the path of a node leads to, and it lies strictly below the root or a link
stands on the way from the root to the node. What the path of a node leads to is changed, wherever it lies, if the
plan for it leaves anything else than what is there. -/
theorem changed_below_or_through_link (hd : h₀.disk.WellFormed) (hb : (build h₀ config root).outcome = .ok t)
    (clock : Clock) (isDryRun : Bool) :
    (∀ l, (t.apply h clock isDryRun).run.host.disk.infoAt l ≠ h.disk.infoAt l →
      ∃ s ∈ t.managed, ∃ top names, names ≠ [] ∧ s.path = t.path.below names ∧ h.locate t.path false = .ok top ∧
        h.locate s.path false = .ok l ∧ (l = top ++ names ∨ h.disk.LinkOnWay top names)) ∧
    ((t.apply h clock isDryRun).fault = none → isDryRun = false → Progress.Apart h t.managed →
      ∀ s ∈ t.managed, ∃ p l, h.plan clock s = .ok p ∧ h.locate s.path false = .ok l ∧
        ((t.apply h clock isDryRun).run.host.disk.infoAt l ≠ h.disk.infoAt l ↔ p.left ≠ p.old)) := by
  constructor
  · intro l hchanged
    have hreached : ∃ s ∈ t.managed, h.locate s.path false = .ok l := Classical.byContradiction fun hnone =>
      hchanged (apply_frame.infoAt l fun s hs hl => hnone ⟨s, hs, hl⟩)
    obtain ⟨s, hs, hl⟩ := hreached
    obtain ⟨top, names, hne, hpath, htop, hor⟩ := locate_managed hd hb hs hl
    exact ⟨s, hs, top, names, hne, hpath, htop, hl, hor⟩
  · rintro hok rfl hapart s hs
    obtain ⟨p, l, hp, hl, hinfo⟩ := (apply_ok hapart hok).1 s hs
    obtain ⟨l', hl', hold⟩ := Host.stat_eq_ok.mp (Host.plan_eq_ok.mp hp).1
    obtain rfl : l = l' := Except.ok.inj (hl.symm.trans hl')
    refine ⟨p, l, hp, hl, ?_⟩
    rw [hinfo, hold]
    simp

end

/-! ### A way out -/

namespace WayOut

/-- A course with a link to a directory beside it. -/
def host : Host :=
  Trial.host [("link", .link 0 "../outside")]
    [("outside", .directory { mode := 0o755, gid := 0 } [("secret", Trial.file 0o644)])]

/-- A config that declares an entry behind the link. -/
def config : Value := .map [(.text "link", .map [(.text "secret", .map [(.text "mode", .text "0600")])])]

end WayOut

theorem changed_below_or_through_link_course : ∃ t, (build WayOut.host WayOut.config Trial.root).outcome = .ok t ∧
    (∀ l, (t.apply WayOut.host Trial.clock false).run.host.disk.infoAt l ≠ WayOut.host.disk.infoAt l →
      ∃ s ∈ t.managed, WayOut.host.locate s.path false = .ok l) ∧
    ∀ s ∈ t.managed, ∃ p l, WayOut.host.plan Trial.clock s = .ok p ∧ WayOut.host.locate s.path false = .ok l ∧
      ((t.apply WayOut.host Trial.clock false).run.host.disk.infoAt l ≠ WayOut.host.disk.infoAt l ↔
        p.left ≠ p.old) := by
  obtain ⟨t, ht, hok, hapart⟩ : ∃ t, (build WayOut.host WayOut.config Trial.root).outcome = .ok t ∧
      (t.apply WayOut.host Trial.clock false).fault = none ∧ Progress.Apart WayOut.host t.managed :=
    exists_of_built (by decide +kernel)
  obtain ⟨hchanged, hplanned⟩ := changed_below_or_through_link (by decide) ht Trial.clock false
  refine ⟨t, ht, fun l hl => ?_, hplanned hok rfl hapart⟩
  obtain ⟨s, hs, top, names, -, -, -, hlocate, -⟩ := hchanged l hl
  exact ⟨s, hs, hlocate⟩

/-- A file outside a root that is a real directory is changed through a link below it. -/
theorem changed_outside_course : ∃ t, (build WayOut.host WayOut.config Trial.root).outcome = .ok t ∧
    WayOut.host.isDirectory t.path = .ok true ∧ WayOut.host.locate t.path false = .ok ["course"] ∧
    (t.apply WayOut.host Trial.clock false).fault = none ∧
    WayOut.host.disk.infoAt ["outside", "secret"] = some { mode := 0o644, gid := 0, kind := .file } ∧
    (t.apply WayOut.host Trial.clock false).run.host.disk.infoAt ["outside", "secret"] =
      some { mode := 0o600, gid := 0, kind := .file } :=
  exists_of_built (by decide +kernel)

end Tree

end Curfew
