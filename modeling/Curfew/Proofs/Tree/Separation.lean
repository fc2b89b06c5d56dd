import Curfew.Proofs.Config.Differing
import Curfew.Proofs.Tree.Branches
import Curfew.Proofs.Tree.Matching

/-! Subtrees apart. What a config says of one child bears on nothing beside or above the child: all other nodes are as
they would be whatever it said, and a run leaves what they lead to as it would. -/

namespace Curfew

namespace Tree

/-- A path is neither the one that names lead to from another nor below it. -/
def Outside (top : Path) (names : List String) (p : Path) : Prop := ∀ more, p ≠ top.below (names ++ more)

section
variable {R : Value → Value → Prop} {h : Host}

/-- A node outside of what two configs differ in stands in both trees if it stands in one. -/
theorem mem_walk_of_differs (hd : h.disk.WellFormed) {names : List String} {v w : Value} (hdiffers : v.Differs R names w) :
    ∀ {path : Path} {parent : Standing} {t u : Tree}, (ofValue h path parent v).outcome = .ok t →
      (ofValue h path parent w).outcome = .ok u → ∀ s ∈ t.walk, Outside path names s.path → s ∈ u.walk := by
  induction names generalizing v w with
  | nil =>
    intro path parent t u ht _ s hs houtside
    obtain ⟨hplaced, rfl⟩ := placed_ofOutline hd (Outline.named_ofValue v) ht
    obtain ⟨more, -, hpath⟩ := hplaced.below s hs
    exact absurd hpath (houtside more)
  | cons name names ih =>
    intro path parent t u ht hu s hs houtside
    obtain ⟨rfl, settings, hv, hderived, -, -, hwalk⟩ := ofValue_inv ht
    obtain ⟨-, settings', hw, hderived', -, hstand', hwalk'⟩ := ofValue_inv hu
    obtain rfl := Value.settings_eq_of_differs hdiffers hv hw
    have htop : t.standing = u.standing := Except.ok.inj (hderived.symm.trans hderived')
    obtain ⟨hothers, hchild⟩ := Value.child?_of_differs hdiffers
    rw [hwalk']
    rcases (hwalk s).mp hs with rfl | ⟨n, below, hunder, hmem⟩
    · exact Or.inl htop
    · refine Or.inr ⟨n, ?_⟩
      rw [htop] at hunder
      by_cases hn : n = name
      · subst hn
        rcases hchild with hsame | ⟨x, y, hx, hy, hbelow⟩
        · exact ⟨below, hsame ▸ hunder, hmem⟩
        · have hpath : t.path = u.standing.path := congrArg Standing.path htop
          rw [hx] at hunder
          obtain ⟨below', hbelow'⟩ : ∃ below', (ofValue h (u.standing.path.child n) u.standing y).outcome = .ok below' := by
            have hstand := hstand' n
            rw [hy] at hstand
            exact hstand
          refine ⟨below', by rw [hy]; exact hbelow', ih hbelow hunder hbelow' s hmem fun more => ?_⟩
          rw [Path.child_below, ← hpath]
          exact houtside more
      · exact ⟨below, hothers n hn ▸ hunder, hmem⟩

end

section
variable {h₀ h : Host} {config config' : Value} {root : Path} {t t' : Tree} {names : List String} {clock : Clock}
  {isDryRun : Bool}

/-- Two configs that differ in one fragment only give the same nodes outside of it. -/
theorem mem_walk_iff_of_differs (hd : h₀.disk.WellFormed) (hb : (build h₀ config root).outcome = .ok t)
    (hb' : (build h₀ config' root).outcome = .ok t') (hdiffers : config.Differs (fun _ _ => True) names config')
    {s : Standing} (houtside : Outside t.path names s.path) : s ∈ t.walk ↔ s ∈ t'.walk := by
  rw [(placed_build hd hb).2] at houtside
  have hdiffers' : config'.Differs (fun _ _ => True) names config := hdiffers.symm fun _ _ => id
  exact ⟨fun hs => mem_walk_of_differs hd hdiffers hb hb' s hs houtside,
    fun hs => mem_walk_of_differs hd hdiffers' hb' hb s hs houtside⟩

/-- A node that leads to a location outside of a subtree is itself outside. -/
theorem outside_of_locate (hd : h₀.disk.WellFormed) (hb : (build h₀ config root).outcome = .ok t) {s : Standing}
    (hs : s ∈ t.managed) (hu : h.Unlinked s.path) {l : Location} (hl : h.locate s.path false = .ok l)
    (hoff : ∀ top more, h.locate t.path false = .ok top → l ≠ top ++ (names ++ more)) : Outside t.path names s.path := by
  obtain ⟨top, found, hpath, htop, hlocation⟩ := locate_managed_unlinked hd hb hs hu hl
  intro more hbelow
  rw [hpath, Path.below_inj] at hbelow
  exact hoff top more htop (hlocation.trans (congrArg (top ++ ·) hbelow))

/-- Two configs that differ only in what they hold at one path, below the root or at it, give every node outside of
that path the same group, policies, excludes and includes. Where no link stands above a node and both runs end without
a fault, they leave the same mode and group at every location outside. -/
theorem separate_of_differs (hd : h₀.disk.WellFormed) (hb : (build h₀ config root).outcome = .ok t)
    (hb' : (build h₀ config' root).outcome = .ok t') (hdiffers : config.Differs (fun _ _ => True) names config') :
    (∀ s, Outside t.path names s.path → (s ∈ t.walk ↔ s ∈ t'.walk)) ∧
    ∀ h clock isDryRun, (∀ s ∈ t.managed, h.Unlinked s.path) → (∀ s ∈ t'.managed, h.Unlinked s.path) →
      (t.apply h clock isDryRun).fault = none → (t'.apply h clock isDryRun).fault = none →
      ∀ l, (∀ top more, h.locate t.path false = .ok top → l ≠ top ++ (names ++ more)) →
        (t.apply h clock isDryRun).run.host.disk.infoAt l = (t'.apply h clock isDryRun).run.host.disk.infoAt l := by
  have hwalk : ∀ s, Outside t.path names s.path → (s ∈ t.walk ↔ s ∈ t'.walk) := fun s houtside =>
    mem_walk_iff_of_differs hd hb hb' hdiffers houtside
  have hroot : t.path = t'.path := (placed_build hd hb).2.trans (placed_build hd hb').2.symm
  refine ⟨hwalk, fun h clock isDryRun hu hu' hok hok' l hoff => ?_⟩
  have hoff' : ∀ top more, h.locate t'.path false = .ok top → l ≠ top ++ (names ++ more) := hroot ▸ hoff
  refine infoAt_congr (apart_managed hd hb hu) (apart_managed hd hb' hu') hok hok' (fun s hs hl => ?_) fun s' hs' hl => ?_
  · have houtside := outside_of_locate hd hb hs (hu s hs) hl hoff
    obtain ⟨hs, hne⟩ := (mem_managed_iff hd hb).mp hs
    exact ⟨s, (mem_managed_iff hd hb').mpr ⟨(hwalk s houtside).mp hs, hroot ▸ hne⟩, .refl s⟩
  · have houtside := outside_of_locate hd hb' hs' (hu' s' hs') hl hoff'
    obtain ⟨hs', hne⟩ := (mem_managed_iff hd hb').mp hs'
    exact ⟨s', (mem_managed_iff hd hb).mpr ⟨(hwalk s' (hroot ▸ houtside)).mpr hs', hroot ▸ hne⟩, .refl s'⟩

end

/-! ### Two neighbours -/

namespace Neighbours

/-- A course with a directory and a file beside it. -/
def host : Host :=
  Trial.host [("hall", .directory { mode := 0o755, gid := 0 } [("map", Trial.file 0o644)]), ("notes", Trial.file 0o644)] []

/-- A config with a mode for all and something for the directory. -/
def config (hall : Value) : Value := .map ([] ++ (.text "hall", hall) :: [(.text "mode", .text "0600")])

/-- Settings that reach out for the file by a pattern. -/
def reaching : Value :=
  .map [(.text "exclude", .text "../notes"), (.text "group", .text "staff"), (.text "mode", .text "0700")]

end Neighbours

theorem separate_of_differs_course : ∃ t t', (build Neighbours.host (Neighbours.config .null) Trial.root).outcome = .ok t ∧
    (build Neighbours.host (Neighbours.config Neighbours.reaching) Trial.root).outcome = .ok t' ∧
    (∀ s, Outside t.path ["hall"] s.path → (s ∈ t.walk ↔ s ∈ t'.walk)) ∧
    (t.apply Neighbours.host Trial.clock false).run.host.disk.infoAt ["course", "notes"] =
      (t'.apply Neighbours.host Trial.clock false).run.host.disk.infoAt ["course", "notes"] := by
  obtain ⟨t, ht, hu, hok, htop⟩ : ∃ t, (build Neighbours.host (Neighbours.config .null) Trial.root).outcome = .ok t ∧
      (∀ s ∈ t.managed, Neighbours.host.Unlinked s.path) ∧ (t.apply Neighbours.host Trial.clock false).fault = none ∧
      (Neighbours.host.locate t.path false).toOption = some ["course"] :=
    exists_of_built (by decide +kernel)
  obtain ⟨t', ht', hu', hok'⟩ : ∃ t', (build Neighbours.host (Neighbours.config Neighbours.reaching) Trial.root).outcome =
      .ok t' ∧ (∀ s ∈ t'.managed, Neighbours.host.Unlinked s.path) ∧
      (t'.apply Neighbours.host Trial.clock false).fault = none :=
    exists_of_built (by decide +kernel)
  have hname : Fragment.childName? (.text "hall") = some "hall" := by decide +kernel
  obtain ⟨hwalk, hseen⟩ := separate_of_differs (by decide) ht ht' (.key hname (.here trivial))
  refine ⟨t, t', ht, ht', hwalk, hseen _ _ false hu hu' hok hok' _ fun top more hl => ?_⟩
  obtain rfl : ["course"] = top := Except.ok.inj ((toOption_eq_some.mp htop).symm.trans hl)
  simp

end Tree

end Curfew
