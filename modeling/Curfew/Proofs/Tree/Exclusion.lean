import Curfew.Proofs.Host.Subtree
import Curfew.Proofs.Tree.Inheritance

/-! Excluding directories. An exclude pattern that names a directory excludes the directory and all that real directories
lead to from there, however deep and whether its name is hidden or not, but for what is included again. -/

namespace Curfew

/-! ### The settings on a longer way -/

namespace Outline

theorem mem_bare_append {placed : Path × Settings} {names : List String} (more : List String) : ∀ {path : Path},
    placed ∈ bare path names → placed ∈ bare path (names ++ more) := by
  induction names with
  | nil => exact fun h => (nomatch h)
  | cons name names ih =>
    intro path h
    rw [bare, List.mem_cons] at h
    rw [List.cons_append, bare, List.mem_cons]
    exact h.imp id ih

theorem mem_placed_append {placed : Path × Settings} {names : List String} (more : List String) : ∀ {path : Path} {o : Outline},
    placed ∈ o.placed path names → placed ∈ o.placed path (names ++ more) := by
  induction names with
  | nil =>
    intro path o h
    cases o with
    | refused fault => cases h
    | node source settings children =>
      obtain rfl := List.mem_singleton.mp h
      cases more with
      | nil => exact List.mem_singleton_self _
      | cons name more => exact List.mem_cons_self
  | cons name names ih =>
    intro path o h
    cases o with
    | refused fault => cases h
    | node source settings children =>
      rw [Outline.placed, List.mem_cons] at h
      rw [List.cons_append, Outline.placed, List.mem_cons]
      refine h.imp id fun h => ?_
      cases hchild : children.lookup name with
      | some child =>
        rw [hchild] at h
        exact ih h
      | none =>
        rw [hchild] at h
        exact mem_bare_append more h

end Outline

namespace Tree

/-! ### Patterns of a built tree -/

theorem exists_glob_of_expandAll {h : Host} {path : Path} {patterns : List String} : ∀ {before found : List Path},
    (expandAll h path patterns before).outcome = .ok found →
      ∀ pattern ∈ patterns, ∃ paths, (h.glob path pattern).outcome = .ok paths := by
  induction patterns with
  | nil => simp
  | cons pattern patterns ih =>
    intro before found hf
    simp only [expandAll, Told.outcome_bind, bind_eq_ok, Told.mapFault, mapError_eq_ok] at hf
    obtain ⟨more, hmore, hf⟩ := hf
    exact List.forall_mem_cons.mpr ⟨⟨more, hmore⟩, ih hf⟩

/-- The exclude patterns on the way to a node were all expanded. -/
theorem inherited_expanded (h : Host) : Inherited h fun chain _ => ∀ placed ∈ chain,
    ∀ pattern ∈ placed.2.directives.excludes, ∃ found, (h.glob placed.1 pattern).outcome = .ok found where
  derive := by
    intro above path settings parent s hparent hs
    simp only [derive, Told.outcome_bind, bind_eq_ok] at hs
    obtain ⟨excludes, hexcludes, -⟩ := hs
    intro placed hplaced
    rcases List.mem_append.mp hplaced with habove | hown
    · exact hparent placed habove
    · obtain rfl := List.mem_singleton.mp hown
      exact exists_glob_of_expandAll hexcludes
  moved := by
    intro above s hs path placed hplaced
    rcases List.mem_append.mp hplaced with habove | hown
    · exact hs placed habove
    · obtain rfl := List.mem_singleton.mp hown
      intro pattern hpattern
      cases hpattern

/-! ### Excluded directories -/

section
variable {h : Host} {config : Value} {root : Path} {t : Tree} {s : Standing} {settings : Settings} {names more : List String}
  {pattern : String} {top : Location} {a : Attributes} {children : List (String × Entry)} {e : Entry}

/-- Below a node with an exclude pattern that names a directory, all that real directories lead to from that directory is
excluded, unless an include pattern on the way to it stands for it. -/
theorem excluded_below_directory (hd : h.disk.WellFormed) (hspelled : h.disk.Spelled)
    (hb : (build h config root).outcome = .ok t)
    (hown : ((Outline.ofValue config).placed t.path names).getLast? = some (t.path.below names, settings))
    (hpattern : pattern ∈ settings.directives.excludes)
    (hrelative : (Path.ofText pattern).root = .working)
    (hbase : h.locate (t.path.below names) true = .ok top)
    (hdirectory : h.disk.get? (top ++ (Path.ofText pattern).names) = some (.directory a children))
    (hs : s ∈ t.walk) (hpath : s.path = (t.path.below names).below ((Path.ofText pattern).names ++ more))
    (he : h.disk.get? (top ++ (Path.ofText pattern).names ++ more) = some e) :
    s.isExcluded = true ↔
      ¬∃ placed ∈ (Outline.ofValue config).placed t.path (names ++ (Path.ofText pattern).names ++ more),
        h.Expands placed.1 placed.2.directives.includes s.path := by
  have hway : s.path = t.path.below (names ++ (Path.ofText pattern).names ++ more) := by
    rw [hpath, Path.below_below, List.append_assoc]
  -- The node has no double dots in its path, nor has a path above it.
  have hdots : ".." ∉ ((t.path.below names).below ((Path.ofText pattern).names ++ more)).names := by
    obtain ⟨names', hsegments, hnames'⟩ := (placed_build hd hb).1.below s hs
    have htop : ".." ∉ t.path.names := by
      rw [(placed_build hd hb).2]
      exact Path.climbs_absolute
    have hbelow : ".." ∉ names' := fun hmem => (not_dot_of_isSegment (hsegments _ hmem)).2 rfl
    rw [← hpath, hnames', Path.below, List.mem_append, not_or]
    exact ⟨htop, hbelow⟩
  have hmem : (t.path.below names, settings) ∈
      (Outline.ofValue config).placed t.path (names ++ (Path.ofText pattern).names ++ more) := by
    rw [List.append_assoc]
    exact Outline.mem_placed_append _ (List.mem_of_getLast? hown)
  obtain ⟨names₁, hnames₁, hinherits⟩ := (inherited_inherits h).walk_build (inherits_outermost h _) hb s hs
  obtain rfl := Path.below_inj.mp (hway.symm.trans hnames₁)
  obtain ⟨names₂, hnames₂, hexpanded⟩ := (inherited_expanded h).walk_build (by simp) hb s hs
  obtain rfl := Path.below_inj.mp (hway.symm.trans hnames₂)
  have hexcludes : s.path ∈ s.excludes := by
    obtain ⟨found, hg⟩ := hexpanded _ hmem pattern hpattern
    have hroot : (t.path.below names).root ≠ .working := root_build hd hb
    have hfound := Host.mem_glob_of_directory hspelled hroot hrelative hdots hbase hdirectory he hg
    rw [← hpath] at hfound
    exact (hinherits.excludes s.path).mpr ⟨_, hmem, pattern, hpattern, found, hg, hfound⟩
  rw [Standing.isExcluded, ← hinherits.includes]
  simp [hexcludes]

end

/-! ### A course with drafts -/

namespace Drafts

/-- A course with a directory of drafts, some of them hidden. -/
def host : Host :=
  Trial.host [("work", .directory { mode := 0o755, gid := 0 } [("drafts", .directory { mode := 0o755, gid := 0 }
    [(".old", .directory { mode := 0o755, gid := 0 } [(".notes", Trial.file 0o644)])])])] []

def config : Value := .map [(.text "mode", .text "0755"), (.text "work", .map [(.text "exclude", .text "./drafts/")])]

def settings : Settings :=
  { directives := { mode := none, group := none, excludes := ["./drafts/"], includes := [] }, dated := [] }

end Drafts

theorem excluded_below_directory_drafts : ∃ t, (build Drafts.host Drafts.config Trial.root).outcome = .ok t ∧
    ∃ s ∈ t.walk, s.path = t.path.below ["work", "drafts", ".old", ".notes"] ∧ s.isExcluded = true := by
  obtain ⟨t, ht, htop, s, hs, hpath⟩ : ∃ t, (build Drafts.host Drafts.config Trial.root).outcome = .ok t ∧
      t.path = { root := .top, names := ["course"] } ∧
      ∃ s ∈ t.walk, s.path = t.path.below ["work", "drafts", ".old", ".notes"] := exists_of_built (by decide +kernel)
  have hpattern : Path.ofText "./drafts/" = { root := .working, names := ["drafts"] } := by decide +kernel
  have hown : ((Outline.ofValue Drafts.config).placed t.path ["work"]).getLast? = some (t.path.below ["work"], Drafts.settings) := by
    rw [htop]
    decide +kernel
  have hbase : Drafts.host.locate (t.path.below ["work"]) true = .ok ["course", "work"] := by
    rw [htop]
    decide +kernel
  have hincludes : ∀ placed ∈ (Outline.ofValue Drafts.config).placed t.path ["work", "drafts", ".old", ".notes"],
      placed.2.directives.includes = [] := by
    rw [htop]
    decide +kernel
  have hbelow : s.path = (t.path.below ["work"]).below ((Path.ofText "./drafts/").names ++ [".old", ".notes"]) := by
    rw [hpattern, Path.below_below]
    exact hpath
  have hexcluded := excluded_below_directory (by decide) (by decide) ht hown (by decide) (by rw [hpattern]) hbase
    (by rw [hpattern]; rfl) hs hbelow (by rw [hpattern]; rfl)
  refine ⟨t, ht, s, hs, hpath, hexcluded.mpr ?_⟩
  rintro ⟨placed, hplaced, pattern, hmem, -⟩
  rw [hpattern] at hplaced
  rw [hincludes placed hplaced] at hmem
  cases hmem

end Tree

end Curfew
