import Curfew.Proofs.Time.Freezing
import Curfew.Proofs.Tree.Matching

/-! The closed form of inheritance. What holds at a node is said of the settings on the way to it alone, and so is the
policy that governs it, but for times that leave the calendar. -/

namespace Curfew

/-! ### The earliest and the latest -/

namespace Policy

/-- The first of some policies with the smallest instant. -/
def IsEarliest (ps : List Policy) (p : Policy) : Prop := (∀ q ∈ ps, p.instant ≤ q.instant) ∧ ps.find? (·.instant = p.instant) = some p

/-- The first of some policies with the largest instant. -/
def IsLatest (ps : List Policy) (p : Policy) : Prop := (∀ q ∈ ps, q.instant ≤ p.instant) ∧ ps.find? (·.instant = p.instant) = some p

instance (ps : List Policy) (p : Policy) : Decidable (IsEarliest ps p) := inferInstanceAs (Decidable (_ ∧ _))

instance (ps : List Policy) (p : Policy) : Decidable (IsLatest ps p) := inferInstanceAs (Decidable (_ ∧ _))

variable {ps : List Policy} {p q : Policy}

theorem IsEarliest.eq (hp : IsEarliest ps p) (hq : IsEarliest ps q) : p = q := by
  have hsame := Int.le_antisymm (hp.1 q (List.mem_of_find?_eq_some hq.2)) (hq.1 p (List.mem_of_find?_eq_some hp.2))
  exact Option.some.inj (hp.2.symm.trans (hsame ▸ hq.2))

theorem IsLatest.eq (hp : IsLatest ps p) (hq : IsLatest ps q) : p = q := by
  have hsame := Int.le_antisymm (hq.1 p (List.mem_of_find?_eq_some hp.2)) (hp.1 q (List.mem_of_find?_eq_some hq.2))
  exact Option.some.inj (hp.2.symm.trans (hsame ▸ hq.2))

theorem isEarliest_of_earliest (h : earliest ps = some p) : IsEarliest ps p := by
  cases ps with
  | nil => cases h
  | cons first ps => exact foldl_least instant ps first p (Option.some.inj h)

theorem isLatest_of_latest (h : latest ps = some p) : IsLatest ps p := by
  cases ps with
  | nil => cases h
  | cons first ps =>
    -- The latest is the one with the least instant once instants are negated.
    have hleast := foldl_least (fun p => -p.instant) ps first p
    simp only [Int.neg_lt_neg_iff, Int.neg_le_neg_iff, Int.neg_inj] at hleast
    exact hleast (Option.some.inj h)

theorem earliest_eq_some : earliest ps = some p ↔ IsEarliest ps p := by
  refine ⟨isEarliest_of_earliest, fun h => ?_⟩
  cases ps with
  | nil => cases h.2
  | cons first ps => exact congrArg some ((isEarliest_of_earliest (earliest_cons first ps)).eq h)

theorem latest_eq_some : latest ps = some p ↔ IsLatest ps p := by
  refine ⟨isLatest_of_latest, fun h => ?_⟩
  cases ps with
  | nil => cases h.2
  | cons first ps => exact congrArg some ((isLatest_of_latest rfl).eq h)

end Policy

/-- How the policy of a node is chosen by a clock. Where the node is not excluded and the time of its latest policy leaves
the calendar, none is. -/
structure Standing.Resolves (s : Standing) (clock : Clock) : Prop where
  nothing : s.policies = [] → s.resolve clock = .ok none
  exist : s.policies ≠ [] → (∃ p, Policy.IsEarliest s.policies p) ∧ ∃ p, Policy.IsLatest s.policies p
  excluded : ∀ first, Policy.IsEarliest s.policies first → s.isExcluded = true → s.resolve clock = .ok (some first)
  due : ∀ last, Policy.IsLatest s.policies last → s.isExcluded = false → last.Movable clock → last.Due clock →
    s.resolve clock = .ok (some last)
  early : ∀ first last, Policy.IsEarliest s.policies first → Policy.IsLatest s.policies last → s.isExcluded = false →
    last.Movable clock → ¬last.Due clock → s.resolve clock = .ok (some first)
  beyond : ∀ last, Policy.IsLatest s.policies last → s.isExcluded = false → ¬last.Movable clock →
    s.resolve clock = .error .outOfCalendar

theorem Standing.resolves (s : Standing) (clock : Clock) : s.Resolves clock where
  nothing h := by
    rw [resolve, h]
    rfl
  exist h := by
    obtain ⟨first, rest, hps⟩ := List.exists_cons_of_ne_nil h
    rw [hps]
    exact ⟨⟨_, Policy.isEarliest_of_earliest rfl⟩, ⟨_, Policy.isLatest_of_latest rfl⟩⟩
  excluded first hfirst hexcluded := by
    have hearliest := Policy.earliest_eq_some.mpr hfirst
    unfold resolve
    cases hlatest : Policy.latest s.policies with
    | none =>
      cases hps : s.policies with
      | nil => rw [hps] at hearliest; cases hearliest
      | cons p ps => rw [hps] at hlatest; cases hlatest
    | some last =>
      dsimp only
      rw [if_pos hexcluded, hearliest]
  due last hlast hexcluded hmovable hdue := by
    rw [resolve, Policy.latest_eq_some.mpr hlast]
    simp only [hexcluded, Policy.isEligible?_eq, if_pos hmovable, hdue, decide_true, Bool.false_eq_true, if_false]
  early first last hfirst hlast hexcluded hmovable hdue := by
    rw [resolve, Policy.latest_eq_some.mpr hlast, Policy.earliest_eq_some.mpr hfirst]
    simp only [hexcluded, Policy.isEligible?_eq, if_pos hmovable, hdue, decide_false, Bool.false_eq_true, if_false]
  beyond last hlast hexcluded hmovable := by
    rw [resolve, Policy.latest_eq_some.mpr hlast]
    simp only [hexcluded, Policy.isEligible?_eq, if_neg hmovable, Bool.false_eq_true, if_false]

/-! ### What is inherited -/

/-- A path that some patterns behind a base stand for. -/
def Host.Expands (h : Host) (base : Path) (patterns : List String) (path : Path) : Prop :=
  ∃ pattern ∈ patterns, ∃ found, (h.glob base pattern).outcome = .ok found ∧ path ∈ found

/-- What holds at a node is what the settings on the way to it say: the nearest group, all that their patterns stand for,
the defaults from the nearest on and the dated policies from the outermost on. -/
structure Standing.Inherits (h : Host) (chain : List (Path × Settings)) (s : Standing) : Prop where
  group : s.group = ((chain.filterMap (·.2.directives.group)).getLast?).getD ""
  excludes : ∀ path, path ∈ s.excludes ↔ ∃ placed ∈ chain, h.Expands placed.1 placed.2.directives.excludes path
  includes : ∀ path, path ∈ s.includes ↔ ∃ placed ∈ chain, h.Expands placed.1 placed.2.directives.includes path
  policies : s.policies = Settings.defaults (chain.map (·.2)) ++ Settings.datedPolicies (chain.map (·.2))

namespace Tree

section
variable {h : Host} {path : Path} {settings : Settings} {parent s : Standing}

theorem mem_expandAll {patterns : List String} : ∀ {before found : List Path},
    (expandAll h path patterns before).outcome = .ok found → ∀ p, p ∈ found ↔ p ∈ before ∨ h.Expands path patterns p := by
  induction patterns with
  | nil =>
    intro before found hf p
    obtain rfl := Except.ok.inj hf
    simp [Host.Expands]
  | cons pattern patterns ih =>
    intro before found hf p
    simp only [expandAll, Told.outcome_bind, bind_eq_ok, Told.mapFault, mapError_eq_ok] at hf
    obtain ⟨more, hmore, hf⟩ := hf
    rw [ih hf p, List.mem_append, or_assoc]
    refine or_congr_right ?_
    simp only [Host.Expands, List.exists_mem_cons_iff, hmore, Except.ok.injEq, exists_eq_left']

theorem derive_expands (hs : (derive h path settings parent).outcome = .ok s) :
    (∀ p, p ∈ s.excludes ↔ p ∈ parent.excludes ∨ h.Expands path settings.directives.excludes p) ∧
      ∀ p, p ∈ s.includes ↔ p ∈ parent.includes ∨ h.Expands path settings.directives.includes p := by
  simp only [derive, Told.outcome_bind, bind_eq_ok, Told.outcome_pure, Except.ok.injEq] at hs
  obtain ⟨excludes, hexcludes, includes, hincludes, rfl⟩ := hs
  exact ⟨mem_expandAll hexcludes, mem_expandAll hincludes⟩

end

theorem inherited_inherits (h : Host) : Inherited h (Standing.Inherits h) where
  derive := by
    intro above path settings parent s hparent hs
    obtain ⟨-, hgroup, -⟩ := derive_inv hs
    obtain ⟨hexcludes, hincludes⟩ := derive_expands hs
    refine ⟨?_, fun p => ?_, fun p => ?_, (inherited_policies h).derive hparent.policies hs⟩
    · rw [hgroup, hparent.group]
      cases hg : settings.directives.group <;> simp [hg]
    · rw [hexcludes, hparent.excludes]
      simp [or_and_right, exists_or]
    · rw [hincludes, hparent.includes]
      simp [or_and_right, exists_or]
  moved := by
    intro above s hs path
    have hnone : ∀ p, ¬h.Expands path [] p := fun p ⟨pattern, hpattern, _⟩ => List.not_mem_nil hpattern
    refine ⟨?_, fun p => ?_, fun p => ?_, (inherited_policies h).moved hs.policies path⟩
    · rw [show (s.moved path).group = s.group from rfl, hs.group]
      simp [Settings.empty, Directives.empty]
    · rw [show (s.moved path).excludes = s.excludes from rfl, hs.excludes]
      simp [or_and_right, exists_or, Settings.empty, Directives.empty, hnone]
    · rw [show (s.moved path).includes = s.includes from rfl, hs.includes]
      simp [or_and_right, exists_or, Settings.empty, Directives.empty, hnone]

theorem inherits_outermost (h : Host) (path : Path) : (Standing.outermost path).Inherits h [] :=
  ⟨rfl, by simp [Standing.outermost], by simp [Standing.outermost], rfl⟩

/-- The nearest default is the earliest policy where none is dated before the epoch. -/
theorem isEarliest_of_inherits {h : Host} {chain : List (Path × Settings)} {s : Standing} (hs : s.Inherits h chain) {p : Policy}
    (hp : (Settings.defaults (chain.map (·.2))).head? = some p)
    (hdated : ∀ q ∈ Settings.datedPolicies (chain.map (·.2)), Policy.epoch.instant ≤ q.instant) :
    Policy.IsEarliest s.policies p := by
  obtain ⟨rest, hdefaults⟩ := List.head?_eq_some_iff.mp hp
  have hinstant : p.instant = Policy.epoch.instant :=
    Settings.instant_of_mem_defaults (hdefaults ▸ List.mem_cons_self)
  have hleast : ∀ q ∈ s.policies, p.instant ≤ q.instant := fun q hq => by
    rw [hinstant]
    rw [hs.policies, List.mem_append] at hq
    rcases hq with hq | hq
    · exact Int.le_of_eq (Settings.instant_of_mem_defaults hq).symm
    · exact hdated q hq
  refine ⟨hleast, ?_⟩
  rw [hs.policies, hdefaults, List.cons_append, List.find?_cons_of_pos (by simp)]

/-- What holds at a node of a built tree is what the settings from the root down to it say. The node is excluded where one
of them excludes its path and none includes it. A clock chooses its policy from the earliest and the latest alone, and
where nothing is dated before the epoch the nearest default governs an excluded node at all times. -/
theorem inherits_of_built {h : Host} {config : Value} {root : Path} {t : Tree} {s : Standing}
    (hb : (build h config root).outcome = .ok t) (hs : s ∈ t.walk) :
    ∃ names, s.path = t.path.below names ∧ s.Inherits h ((Outline.ofValue config).placed t.path names) ∧
      (s.isExcluded = true ↔
        (∃ placed ∈ (Outline.ofValue config).placed t.path names, h.Expands placed.1 placed.2.directives.excludes s.path) ∧
          ¬∃ placed ∈ (Outline.ofValue config).placed t.path names, h.Expands placed.1 placed.2.directives.includes s.path) ∧
      (∀ clock, s.Resolves clock) ∧
      ∀ p, (Settings.defaults ((Outline.ofValue config).chain names)).head? = some p →
        (∀ q ∈ Settings.datedPolicies ((Outline.ofValue config).chain names), Policy.epoch.instant ≤ q.instant) →
          s.isExcluded = true → ∀ clock, s.resolve clock = .ok (some p) := by
  obtain ⟨names, hpath, hinherits⟩ := (inherited_inherits h).walk_build (inherits_outermost h _) hb s hs
  refine ⟨names, hpath, hinherits, ?_, s.resolves, fun p hp hdated hexcluded clock => ?_⟩
  · rw [Standing.isExcluded, ← hinherits.excludes, ← hinherits.includes]
    simp
  · rw [← Outline.map_snd_placed names t.path] at hp hdated
    exact (s.resolves clock).excluded p (isEarliest_of_inherits hinherits hp hdated) hexcluded

/-! ### A course with an exception -/

namespace Exception

/-- A course with a directory of two files. -/
def host : Host := Trial.host [("work", .directory { mode := 0o755, gid := 0 } [("a", Trial.file 0o644), ("b", Trial.file 0o644)])] []

/-- A config that excludes the files of the directory and includes one of them again. -/
def config : Value :=
  .map [(.text "mode", .text "0755"), (.text "group", .text "staff"), (.time (.wall Policy.epoch.wall), .text "0700"),
    (.text "exclude", .list [.text "work/*"]),
    (.text "work", .map [(.text "mode", .text "0750"), (.text "include", .list [.text "b"])])]

end Exception

theorem inherits_of_built_course : ∃ t, (build Exception.host Exception.config Trial.root).outcome = .ok t ∧
    ∃ s ∈ t.walk, s.path = t.path.below ["work", "a"] ∧
      s.Inherits Exception.host ((Outline.ofValue Exception.config).placed t.path ["work", "a"]) ∧ s.isExcluded = true ∧
      ∀ clock, s.resolve clock = .ok (some (.default { dir := "0750", file := "0750" })) := by
  obtain ⟨t, ht, s, hs, hpath, hexcluded⟩ : ∃ t, (build Exception.host Exception.config Trial.root).outcome = .ok t ∧
      ∃ s ∈ t.walk, s.path = t.path.below ["work", "a"] ∧ s.isExcluded = true := exists_of_built (by decide +kernel)
  obtain ⟨names, hnames, hinherits, -, -, hnearest⟩ := inherits_of_built ht hs
  obtain rfl : ["work", "a"] = names := by simpa [Path.below] using hpath.symm.trans hnames
  exact ⟨t, ht, s, hs, hpath, hinherits, hexcluded, hnearest _ (by decide +kernel) (by decide +kernel) hexcluded⟩

/-! ### A deadline at the end of the calendar -/

namespace LastSecond

/-- The last second of the calendar. -/
def date : When := .wall ⟨Calendar.span - 1000000, by decide⟩

def config : Value := .map [(.text "mode", .text "0755"), (.time date, .text "0700")]

/-- The first midnight of 2029, an hour behind universal time. -/
def clock : Clock := { instant := .utc (.midnight ⟨740712, by decide⟩), utcOffset := -3600000000 }

end LastSecond

/-- Long before the deadline no policy is chosen: not the default either. -/
theorem last_second_unresolved : ∃ t, (build (Trial.host [] []) LastSecond.config Trial.root).outcome = .ok t ∧
    ∀ s ∈ t.walk, Policy.IsEarliest s.policies (.default { dir := "0755", file := "0755" }) ∧
      Policy.IsLatest s.policies (.dated LastSecond.date { dir := "0700", file := "0700" }) ∧
      ¬(Policy.dated LastSecond.date { dir := "0700", file := "0700" }).Due LastSecond.clock ∧ s.isExcluded = false ∧
      (s.resolve LastSecond.clock).toOption = none :=
  exists_of_built (by decide +kernel)

end Tree

end Curfew
