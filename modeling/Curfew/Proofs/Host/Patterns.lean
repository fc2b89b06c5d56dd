import Curfew.Proofs.Host.Expansion
import Curfew.Proofs.Tree.Build

/-! Patterns of one name with a wildcard, behind a directory. Such a pattern stands for entries of the directory alone where
no name of the directory's own path is a pattern; else it stands for entries of the directories that look like it. -/

namespace Curfew

theorem Path.child_inj {p q : Path} {name n : String} : p.child name = q.child n ↔ p = q ∧ name = n := by
  constructor
  · intro h
    obtain ⟨hroot, hnames⟩ := Path.mk.inj h
    obtain ⟨hnames, hname⟩ := List.append_inj' hnames rfl
    refine ⟨?_, by simpa using hname⟩
    cases p
    cases q
    simp_all
  · rintro ⟨rfl, rfl⟩
    rfl

theorem Path.ofText_of_isPattern {pattern : String} (hslash : '/' ∉ pattern.toList) (hpattern : Wildcard.isPattern pattern = true) :
    ofText pattern = { root := .working, names := [pattern] } := by
  have hname : pattern ≠ "" ∧ pattern ≠ "." := by
    constructor <;>
    · rintro rfl
      cases hpattern
  have hroot : rootOf pattern.toList = .working := by
    unfold rootOf
    split <;> rename_i heq
    · exact absurd (heq ▸ List.mem_cons_self) hslash
    · exact absurd (heq ▸ List.mem_cons_self) hslash
    · exact absurd (heq ▸ List.mem_cons_self) hslash
    · rfl
  unfold ofText
  rw [Text.splitAt_eq_singleton hslash, hroot]
  simp [hname]

namespace Host
variable {h : Host} {base d : Path} {pattern : String} {found : List Path} {children : List (String × Entry)}

/-! ### Patterns that cannot be asked for -/

/-- A pattern behind a base may be too long to be asked for: by itself, with the path of the base, or as the name of a link
with a target that is. -/
def TooLong (h : Host) (base : Path) (pattern : String) : Prop :=
  Resolved.longestName < Text.Utf8.size pattern ∨ Resolved.longestPath < Text.Utf8.size (base.child pattern).text ∨
    ∃ children gid target, h.children base = .ok children ∧ (pattern, .link gid target) ∈ children

theorem tooLong_of_leadsToDirectory (hc : h.children base = .ok children)
    (hdots : pattern ≠ "." ∧ pattern ≠ "..") {fault : DiskFault} (hf : h.leadsToDirectory (base.child pattern) = .error fault) :
    (∃ q, fault = .system .nameTooLong q) ∧ h.TooLong base pattern := by
  have hfault : ∃ q, fault = .system .nameTooLong q ∧ h.look (base.child pattern) true = .error (.system .nameTooLong q) := by
    unfold leadsToDirectory test at hf
    split at hf
    · cases hf
    · rename_i q hlook
      exact ⟨q, (Except.error.inj hf).symm, hlook⟩
    · cases hf
  obtain ⟨q, rfl, hlook⟩ := hfault
  refine ⟨⟨q, rfl⟩, ?_⟩
  rcases look_error hlook with hchecked | ⟨error, hnames, herror⟩ | hmissing
  · exact Or.inr (Or.inl (Resolved.tooLong_of_checkText hchecked))
  · obtain ⟨rfl, -⟩ := DiskFault.system.inj herror
    obtain ⟨l, a, hbase⟩ := children_eq_ok.mp hc
    obtain ⟨hl, he⟩ := look_eq_ok.mp hbase
    obtain ⟨links, hon⟩ := Resolved.ofNames_on _ _ _ (locate_eq_ok.mp hl).2
    have hlast : Resolved.ofNames h.disk true links l [pattern] = .error .nameTooLong := (hon true [pattern] (by simp)).symm.trans hnames
    obtain ⟨again, hwalk⟩ := Resolved.ofNames_eq_walk h.disk links true
    rw [hwalk, Resolved.walk_cons] at hlast
    cases Resolved.step_of_directory he hdots with
    | tooLong hlong => exact Or.inl hlong
    | free _ hturn =>
      rw [hturn] at hlast
      cases hlast
    | link gid target hchild => exact Or.inr (Or.inr ⟨children, gid, target, hc, Entry.mem_of_lookup hchild⟩)
    | down _ _ _ hturn =>
      rw [hturn] at hlast
      cases hlast
  · cases hmissing

/-! ### Patterns that are expanded -/

/-- An entry of a directory that a base stands for, with a name that a pattern shows. -/
def ShownIn (h : Host) (base : Path) (pattern : String) (q : Path) : Prop :=
  ∃ d children name, base.Lookalike d ∧ h.children d = .ok children ∧ name ∈ children.map (·.1) ∧
    Wildcard.Shows pattern name ∧ q = d.child name

/-- An entry of a directory with a name that a pattern shows. -/
def ShownBy (h : Host) (base : Path) (pattern : String) (q : Path) : Prop :=
  ∃ children name, h.children base = .ok children ∧ name ∈ children.map (·.1) ∧ Wildcard.Shows pattern name ∧ q = base.child name

/-- What a pattern of one name behind a base comes to. -/
structure Matched (h : Host) (base : Path) (pattern : String) : Prop where
  /-- It stands for some paths unless it is too long to be asked for. -/
  answers : (∃ found, (h.glob base pattern).outcome = .ok found) ∨
    (∃ q, (h.glob base pattern).outcome = .error (.system .nameTooLong q)) ∧ h.TooLong base pattern
  /-- It stands for the entries that it shows of all directories that the base stands for. -/
  found_iff : ∀ found, (h.glob base pattern).outcome = .ok found → ∀ q, q ∈ found ↔ h.ShownIn base pattern q
  /-- These are the entries that it shows of the base just if, of all directories with such entries, the base stands for itself
  and for no other. -/
  exact_iff : ∀ found, (h.glob base pattern).outcome = .ok found → ((∀ q, q ∈ found ↔ h.ShownBy base pattern q) ↔
    ∀ d children name, h.children d = .ok children → name ∈ children.map (·.1) → Wildcard.Shows pattern name →
      (base.Lookalike d ↔ d = base))
  /-- So they are where no name of the base is a pattern. -/
  plain : (∀ n ∈ base.names, Wildcard.isPattern n = false) → ∀ found, (h.glob base pattern).outcome = .ok found →
    ∀ q, q ∈ found ↔ h.ShownBy base pattern q
  /-- Where the base does not stand for itself, no entry of it is among them. -/
  missed : ¬base.Lookalike base → ∀ found, (h.glob base pattern).outcome = .ok found → ∀ name, base.child name ∉ found

theorem exact_iff_of_found (hf : ∀ q, q ∈ found ↔ h.ShownIn base pattern q) : (∀ q, q ∈ found ↔ h.ShownBy base pattern q) ↔
    ∀ d children name, h.children d = .ok children → name ∈ children.map (·.1) → Wildcard.Shows pattern name →
      (base.Lookalike d ↔ d = base) := by
  simp only [hf]
  constructor
  · intro hsame d children name hc hmem hshows
    constructor
    · intro hlike
      obtain ⟨_, _, -, -, -, heq⟩ := (hsame _).mp ⟨d, children, name, hlike, hc, hmem, hshows, rfl⟩
      exact (Path.child_inj.mp heq).1
    · rintro rfl
      obtain ⟨d', _, _, hlike, -, -, -, heq⟩ := (hsame _).mpr ⟨children, name, hc, hmem, hshows, rfl⟩
      exact (Path.child_inj.mp heq).1 ▸ hlike
  · intro hall q
    constructor
    · rintro ⟨d, children, name, hlike, hc, hmem, hshows, rfl⟩
      obtain rfl := (hall d children name hc hmem hshows).mp hlike
      exact ⟨children, name, hc, hmem, hshows, rfl⟩
    · rintro ⟨children, name, hc, hmem, hshows, rfl⟩
      exact ⟨base, children, name, (hall base children name hc hmem hshows).mpr rfl, hc, hmem, hshows, rfl⟩

theorem lookalike_of_plain (hbase : ∀ n ∈ base.names, Fragment.isSegment n = true)
    (hplain : ∀ n ∈ base.names, Wildcard.isPattern n = false) : base.Lookalike d ↔ d = base := by
  unfold Path.Lookalike
  rw [Wildcard.forall₂_resembles hplain]
  constructor
  · rintro ⟨hroot, hnames, -⟩
    cases base
    cases d
    simp_all
  · rintro rfl
    exact ⟨rfl, rfl, hbase⟩

theorem exists_expand (hd : h.disk.WellFormed) (hs : h.disk.Spelled) (hroot : base.root ≠ .working)
    (hbase : ∀ n ∈ base.names, Fragment.isSegment n = true) (hc : h.children base = .ok children)
    (hpattern : Wildcard.isPattern pattern = true) :
    ∃ paths, h.expand (base.child pattern) = .ok paths ∧ ∀ q, q ∈ paths ↔ h.ShownIn base pattern q := by
  have hasked : ∀ n ∈ base.names, Resolved.CanBeAsked n := by
    obtain ⟨l, hl⟩ := locate_of_children hc
    exact (Resolved.canBeAsked_text hroot).mp (Resolved.canBeAsked_of_checkText (locate_eq_ok.mp hl).1)
  obtain ⟨directories, hdirectories, hstand⟩ := exists_directoriesOf hd hs hroot base.names.reverse fun n hn =>
    ⟨hbase n (List.mem_reverse.mp hn), hasked n (List.mem_reverse.mp hn)⟩
  obtain ⟨paths, hpaths, hmem⟩ :=
    exists_expandNames hdirectories (fun d hd => hstand.canBeAsked hroot hd) pattern false
  refine ⟨paths, ?_, fun q => ?_⟩
  · have hany : (base.child pattern).names.any Wildcard.isPattern = true := by simp [Path.child, hpattern]
    have hreverse : (base.child pattern).names.reverse = pattern :: base.names.reverse := by simp [Path.child]
    unfold expand
    rw [if_pos hany, hreverse]
    exact hpaths
  · rw [hmem]
    constructor
    · rintro ⟨d, hfound, name, hfinds, rfl⟩
      rw [Finds, if_pos hpattern] at hfinds
      obtain ⟨hshows, ⟨entries, hentries, hname⟩, -⟩ := hfinds
      refine ⟨d, entries, name, ⟨hstand.rooted d hfound, ?_, hstand.segments d hfound⟩, hentries, hname, hshows, rfl⟩
      have hresembles := hstand.resembles d hfound
      rwa [List.forall₂_reverse_iff] at hresembles
    · rintro ⟨d, entries, name, ⟨hdroot, hresembles, hsegments⟩, hentries, hname, hshows, rfl⟩
      refine ⟨d, hstand.complete d entries hdroot (List.forall₂_reverse_iff.mpr hresembles) hsegments hentries, name, ?_, rfl⟩
      rw [Finds, if_pos hpattern]
      exact ⟨hshows, ⟨entries, hentries, hname⟩, by simp⟩

theorem absolute_shownIn {q : Path} (hd : h.disk.WellFormed) (hs : h.disk.Spelled) (hroot : base.root ≠ .working)
    (hq : h.ShownIn base pattern q) : h.absolute q = q := by
  obtain ⟨d, entries, name, ⟨hdroot, -, hsegments⟩, hentries, hname, -, rfl⟩ := hq
  refine Path.absolute_eq_self (hdroot ▸ hroot) fun hclimb => ?_
  rcases List.mem_append.mp hclimb with hclimb | hclimb
  · exact absurd (hsegments _ hclimb) (by decide)
  · obtain rfl := List.mem_singleton.mp hclimb
    exact absurd (spelled_of_children hd hs hentries hname).1 (by decide)

theorem join_pattern (hslash : '/' ∉ pattern.toList) (hpattern : Wildcard.isPattern pattern = true) :
    base.join (.ofText pattern) = base.child pattern := by
  rw [Path.ofText_of_isPattern hslash hpattern, Path.join_eq_below rfl]
  rfl

theorem glob_refused {fault : DiskFault} (hslash : '/' ∉ pattern.toList) (hpattern : Wildcard.isPattern pattern = true)
    (hl : h.leadsToDirectory (base.child pattern) = .error fault) : (h.glob base pattern).outcome = .error fault := by
  unfold glob
  simp only [join_pattern hslash hpattern, hl, Told.outcome_bind, Told.outcome_ofExcept]
  rfl

/-- A pattern of one name that names no directory is expanded. -/
theorem glob_expands (hslash : '/' ∉ pattern.toList) (hpattern : Wildcard.isPattern pattern = true)
    (hnone : h.leadsToDirectory (base.child pattern) ≠ .ok true) : (h.glob base pattern).outcome = .ok found ↔
      ∃ paths, h.leadsToDirectory (base.child pattern) = .ok false ∧ h.expand (base.child pattern) = .ok paths ∧
        found = (paths.map h.absolute).eraseDups := by
  rw [glob_eq_ok, join_pattern hslash hpattern]
  constructor
  · rintro ⟨b, paths, hb, hpaths, hfound⟩
    cases b with
    | false => exact ⟨paths, hb, hpaths, hfound⟩
    | true => exact absurd hb hnone
  · rintro ⟨paths, hb, hpaths, hfound⟩
    exact ⟨false, paths, hb, hpaths, hfound⟩

/-- Behind a directory, a pattern of one name that names no directory there stands for the entries that it shows of all
directories that look like the path of the directory. -/
theorem matched_of_wildcard (hd : h.disk.WellFormed) (hs : h.disk.Spelled) (hroot : base.root ≠ .working)
    (hbase : ∀ n ∈ base.names, Fragment.isSegment n = true) (hc : h.children base = .ok children)
    (hslash : '/' ∉ pattern.toList) (hpattern : Wildcard.isPattern pattern = true)
    (hnone : h.leadsToDirectory (base.child pattern) ≠ .ok true) : h.Matched base pattern := by
  obtain ⟨paths, hpaths, hmem⟩ := exists_expand hd hs hroot hbase hc hpattern
  have hfound : ∀ found, (h.glob base pattern).outcome = .ok found → ∀ q, q ∈ found ↔ h.ShownIn base pattern q := by
    intro found hg q
    obtain ⟨paths', -, hpaths', rfl⟩ := (glob_expands hslash hpattern hnone).mp hg
    obtain rfl := Except.ok.inj (hpaths.symm.trans hpaths')
    have habsolute : paths.map h.absolute = paths :=
      (List.map_congr_left fun p hp => absolute_shownIn hd hs hroot ((hmem p).mp hp)).trans (List.map_id paths)
    rw [habsolute, List.mem_eraseDups]
    exact hmem q
  refine ⟨?_, hfound, fun found hg => exact_iff_of_found (hfound found hg), ?_, ?_⟩
  -- Expanding does not fail; only looking whether the pattern names a directory may.
  · cases hl : h.leadsToDirectory (base.child pattern) with
    | error fault =>
      have hdots : pattern ≠ "." ∧ pattern ≠ ".." := by
        constructor <;>
        · rintro rfl
          cases hpattern
      obtain ⟨⟨q, rfl⟩, hlong⟩ := tooLong_of_leadsToDirectory hc hdots hl
      exact Or.inr ⟨⟨q, glob_refused hslash hpattern hl⟩, hlong⟩
    | ok b =>
      cases b with
      | false => exact Or.inl ⟨_, (glob_expands hslash hpattern hnone).mpr ⟨paths, hl, hpaths, rfl⟩⟩
      | true => exact absurd hl hnone
  · intro hplain found hg
    exact (exact_iff_of_found (hfound found hg)).mpr fun _ _ _ _ _ _ => lookalike_of_plain hbase hplain
  · intro hself found hg name hmem
    obtain ⟨d, _, _, hlike, -, -, -, heq⟩ := (hfound found hg _).mp hmem
    exact hself ((Path.child_inj.mp heq).1 ▸ hlike)

/-! ### A directory with brackets in its name -/

namespace Bracketed

/-- A directory of logs and one whose name is a pattern for that of the first. -/
def host : Host := Tree.Trial.host [("a1", .directory { mode := 0o755, gid := 0 } [("y.log", Tree.Trial.file 0o644)]),
  ("a[1]", .directory { mode := 0o755, gid := 0 } [("x.log", Tree.Trial.file 0o644)])] []

def logs : Path := { root := .top, names := ["course", "a[1]"] }

end Bracketed

theorem matched_of_wildcard_bracketed : Bracketed.host.Matched Bracketed.logs "*.log" := by
  have hc : Bracketed.host.children Bracketed.logs = .ok [("x.log", Tree.Trial.file 0o644)] := rfl
  exact matched_of_wildcard (by decide) (by decide) (by decide) (by decide) hc (by decide) (by decide) (by decide)

/-- The entry that the pattern shows is left out, and one outside of the directory is taken for it. -/
theorem bracketed_missed : Bracketed.host.children Bracketed.logs = .ok [("x.log", Tree.Trial.file 0o644)] ∧
    Wildcard.Shows "*.log" "x.log" ∧ (Bracketed.host.glob Bracketed.logs "*.log").outcome =
      .ok [{ root := .top, names := ["course", "a1", "y.log"] }] :=
  ⟨rfl, by decide, by decide⟩

end Host

end Curfew
