import Curfew.Proofs.Tree.Placed
import Curfew.Proofs.Tree.Runs

/-! Where the paths of the nodes of a built tree lead. Without links above them they lead down from the root, each
to a location of its own. -/

namespace Curfew

/-- A link stands on the way that names lead down from a location: at the location or under a name before the
last. -/
def Entry.LinkOnWay (disk : Entry) (top : Location) (names : List String) : Prop :=
  ∃ above below, names = above ++ below ∧ below ≠ [] ∧ disk.HasLink (top ++ above)

namespace Tree
variable {h₀ h : Host} {config : Value} {root : Path} {t : Tree} {s : Standing} {l : Location}

theorem not_dot_of_isSegment {name : String} (h : Fragment.isSegment name = true) : name ≠ "." ∧ name ≠ ".." := by
  simp only [Fragment.isSegment, Bool.and_eq_true, bne_iff_ne] at h
  exact ⟨h.1.1.2, h.1.2⟩

/-- The path of a node leads down from where the root's path leads, unless it goes through a link. -/
theorem locate_managed (hd : h₀.disk.WellFormed) (hb : (build h₀ config root).outcome = .ok t) (hs : s ∈ t.managed)
    (hl : h.locate s.path false = .ok l) :
    ∃ top names, names ≠ [] ∧ s.path = t.path.below names ∧ h.locate t.path false = .ok top ∧
      (l = top ++ names ∨ h.disk.LinkOnWay top names) := by
  obtain ⟨names, hne, hsegments, hpath⟩ := (placed_build hd hb).1.managed_below hs
  have hdots : ∀ name ∈ names, name ≠ "." ∧ name ≠ ".." := fun name hn => not_dot_of_isSegment (hsegments name hn)
  rw [hpath] at hl
  obtain ⟨top, htop, hor⟩ := Host.locate_below (root_build hd hb) hne hdots hl
  refine ⟨top, names, hne, hpath, htop, hor.imp id ?_⟩
  rintro ⟨above, below, hnames, hbelow, -, hlink⟩
  exact ⟨above, below, hnames, hbelow, hlink⟩

/-- The path of a node without a link above it leads down from where the root's path leads. -/
theorem locate_managed_unlinked (hd : h₀.disk.WellFormed) (hb : (build h₀ config root).outcome = .ok t)
    (hs : s ∈ t.managed) (hu : h.Unlinked s.path) (hl : h.locate s.path false = .ok l) :
    ∃ top names, s.path = t.path.below names ∧ h.locate t.path false = .ok top ∧ l = top ++ names := by
  obtain ⟨names, hne, hsegments, hpath⟩ := (placed_build hd hb).1.managed_below hs
  rw [hpath] at hu hl
  obtain ⟨top, htop, rfl⟩ := hu.locate_below (root_build hd hb) hne
    (fun name hn => not_dot_of_isSegment (hsegments name hn)) hl
  exact ⟨top, names, hpath, htop, rfl⟩

/-- No two nodes without links above them lead to one location. -/
theorem apart_managed (hd : h₀.disk.WellFormed) (hb : (build h₀ config root).outcome = .ok t)
    (hu : ∀ s ∈ t.managed, h.Unlinked s.path) : Progress.Apart h t.managed := by
  have hnodup := (placed_build hd hb).1.paths_nodup
  rw [walk_eq, List.map_append] at hnodup
  have hpaths : t.managed.Pairwise fun s s' => s.path ≠ s'.path :=
    List.pairwise_map.mp (List.nodup_append.mp hnodup).1
  refine hpaths.imp_of_mem fun {s s'} hs hs' hne l hl hl' => hne ?_
  obtain ⟨top, names, hp, htop, rfl⟩ := locate_managed_unlinked hd hb hs (hu s hs) hl
  obtain ⟨top', names', hp', htop', heq⟩ := locate_managed_unlinked hd hb hs' (hu s' hs') hl'
  -- The names below one root are read off the location.
  obtain rfl : top = top' := Except.ok.inj (htop.symm.trans htop')
  rw [hp, hp', List.append_cancel_left heq]

end Tree

end Curfew
