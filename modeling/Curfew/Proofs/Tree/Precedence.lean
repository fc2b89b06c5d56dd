import Curfew.Proofs.Tree.Inheritance

/-! Which of the policies of one time governs. A node's default comes before all that it inherits and its dated policies
come after, so its own policy governs only as a default, or where nothing of that time is inherited. -/

namespace Curfew

/-- The policies that a node sets itself, its default first. -/
def Settings.policies (settings : Settings) : List Policy :=
  (settings.directives.mode.map Policy.default).toList ++ settings.dated.map fun dated => Policy.dated dated.1 dated.2

/-- The policies that a chain of settings hands on to the nodes below. -/
def Settings.handedOn (chain : List Settings) : List Policy := Settings.defaults chain ++ Settings.datedPolicies chain

/-- A node's own policies come before inherited ones of a time: the default does, and any where none of that time is
inherited. -/
def Settings.Prevails (own : Settings) (inherited : List Policy) (time : Int) : Prop :=
  own.directives.mode.isSome = true ∧ time = Policy.epoch.instant ∨ ∀ q ∈ inherited, q.instant ≠ time

instance (own : Settings) (inherited : List Policy) (time : Int) : Decidable (own.Prevails inherited time) :=
  inferInstanceAs (Decidable (_ ∨ _))

theorem Settings.handedOn_append_singleton (above : List Settings) (own : Settings) :
    handedOn (above ++ [own]) = Standing.derivePolicies own (handedOn above) := by
  cases hm : own.directives.mode <;> simp [handedOn, defaults, datedPolicies, Standing.derivePolicies, hm]

/-- The policy of a node is the first of its time. -/
theorem Standing.find?_of_resolve {s : Standing} {clock : Clock} {p : Policy} (hr : s.resolve clock = .ok (some p)) :
    s.policies.find? (·.instant = p.instant) = some p := by
  rcases resolve_inv hr with hearliest | ⟨hlatest, -⟩
  · exact (Policy.isEarliest_of_earliest hearliest).2
  · exact (Policy.isLatest_of_latest hlatest).2

/-- Among policies of one time stands the own default first, then what is inherited, then the own dated ones. -/
theorem Policy.find?_derivePolicies {own : Settings} {inherited : List Policy} {p : Policy}
    (hp : (Standing.derivePolicies own inherited).find? (·.instant = p.instant) = some p) :
    (own.Prevails inherited p.instant → own.policies.find? (·.instant = p.instant) = some p) ∧
      (¬own.Prevails inherited p.instant → inherited.find? (·.instant = p.instant) = some p) := by
  have hdefault : ((own.directives.mode.map default).toList.find? (·.instant = p.instant)).isSome = true ↔
      own.directives.mode.isSome = true ∧ p.instant = epoch.instant := by
    rw [List.find?_isSome]
    constructor
    · rintro ⟨q, hq, hsame⟩
      obtain ⟨spec, hspec, rfl⟩ := Option.map_eq_some_iff.mp (Option.mem_toList.mp hq)
      exact ⟨Option.isSome_iff_exists.mpr ⟨spec, hspec⟩, (of_decide_eq_true hsame).symm⟩
    · rintro ⟨hmode, hepoch⟩
      obtain ⟨spec, hspec⟩ := Option.isSome_iff_exists.mp hmode
      exact ⟨default spec, by simp [hspec], decide_eq_true hepoch.symm⟩
  have hinherited : inherited.find? (·.instant = p.instant) = none ↔ ∀ q ∈ inherited, q.instant ≠ p.instant := by
    simp
  rw [Settings.Prevails, ← hdefault, ← hinherited, Settings.policies, List.find?_append]
  rw [Standing.derivePolicies, List.find?_append, List.find?_append] at hp
  generalize (own.directives.mode.map default).toList.find? (·.instant = p.instant) = first at hp
  generalize inherited.find? (·.instant = p.instant) = next at hp
  cases first with
  | some first => exact ⟨fun _ => hp, fun h => absurd (Or.inl rfl) h⟩
  | none =>
    cases next with
    | none => exact ⟨fun _ => hp, fun h => absurd (Or.inr rfl) h⟩
    | some next => exact ⟨fun h => by simp at h, fun _ => hp⟩

namespace Tree

/-- A node of a built tree has settings of its own behind those of the nodes above it. A policy that governs it is its own
one of that time where its own prevail, and else the first inherited one of that time. -/
theorem own_or_inherited_of_built {h : Host} {config : Value} {root : Path} {t : Tree} {s : Standing}
    (hb : (build h config root).outcome = .ok t) (hs : s ∈ t.walk) :
    ∃ names above own, s.path = t.path.below names ∧ (Outline.ofValue config).chain names = above ++ [own] ∧
      ∀ clock p, s.resolve clock = .ok (some p) →
        (own.Prevails (Settings.handedOn above) p.instant → own.policies.find? (·.instant = p.instant) = some p) ∧
          (¬own.Prevails (Settings.handedOn above) p.instant →
            (Settings.handedOn above).find? (·.instant = p.instant) = some p) := by
  obtain ⟨names, hpath, hpolicies⟩ := policies_of_walk hb hs
  obtain ⟨above, own, hchain⟩ : ∃ above own, (Outline.ofValue config).chain names = above ++ [own] := by
    obtain ⟨_, _, _, _, _, _, ho, -⟩ := ofOutline_inv hb
    have hne : (Outline.ofValue config).chain names ≠ [] := by
      rw [ho]
      cases names <;> exact List.cons_ne_nil _ _
    exact ⟨_, _, (List.dropLast_append_getLast hne).symm⟩
  refine ⟨names, above, own, hpath, hchain, fun clock p hr => Policy.find?_derivePolicies ?_⟩
  rw [← Settings.handedOn_append_singleton, Settings.handedOn, ← hchain, ← hpolicies]
  exact Standing.find?_of_resolve hr

/-! ### A deadline set twice -/

namespace Twice

/-- A course with a directory for handouts. -/
def host : Host := Trial.host [("handouts", .directory { mode := 0o755, gid := 0 } [])] []

/-- The first day of 2020. -/
def date : Date := ⟨737424, by decide⟩

/-- What is set for the handouts: a default, and a mode from the first midnight of 2020 on. -/
def handouts : List (Value × Value) := [(.text "mode", .text "0750"), (.time (.wall (.midnight date)), .text "0740")]

/-- A config that sets the same for the whole course with other modes. -/
def config : Value :=
  .map [(.text "mode", .text "0755"), (.time (.day date), .text "0700"), (.text "handouts", .map handouts)]

def ownDefault : Policy := .default { dir := "0750", file := "0750" }

/-- What the handouts set for 2020, in the words of a wall time. -/
def own : Policy := .dated (.wall (.midnight date)) { dir := "0740", file := "0740" }

/-- What the course sets for 2020, in the words of a day. -/
def inherited : Policy := .dated (.day date) { dir := "0700", file := "0700" }

/-- The first midnight of 2029. -/
def clock : Clock := { LastSecond.clock with utcOffset := 0 }

end Twice

theorem own_or_inherited_of_built_course : ∃ t, (build Twice.host Twice.config Trial.root).outcome = .ok t ∧
    ∃ s ∈ t.walk, s.path = t.path.below ["handouts"] ∧ ∃ above own,
      (Outline.ofValue Twice.config).chain ["handouts"] = above ++ [own] ∧
      s.resolve Trial.clock = .ok (some Twice.ownDefault) ∧
      own.policies.find? (·.instant = Twice.ownDefault.instant) = some Twice.ownDefault ∧
      s.resolve Twice.clock = .ok (some Twice.inherited) ∧
      (Settings.handedOn above).find? (·.instant = Twice.inherited.instant) = some Twice.inherited := by
  obtain ⟨t, ht, s, hs, hpath, hearly, hlate⟩ : ∃ t, (build Twice.host Twice.config Trial.root).outcome = .ok t ∧
      ∃ s ∈ t.walk, s.path = t.path.below ["handouts"] ∧ (s.resolve Trial.clock).toOption = some (some Twice.ownDefault) ∧
        (s.resolve Twice.clock).toOption = some (some Twice.inherited) := exists_of_built (by decide +kernel)
  rw [toOption_eq_some] at hearly hlate
  obtain ⟨names, above, own, hnames, hchain, hgoverns⟩ := own_or_inherited_of_built ht hs
  obtain rfl : ["handouts"] = names := by simpa [Path.below] using hpath.symm.trans hnames
  have habove : above = ((Outline.ofValue Twice.config).chain ["handouts"]).dropLast := by rw [hchain, List.dropLast_concat]
  have hown : own ∈ (Outline.ofValue Twice.config).chain ["handouts"] := by simp [hchain]
  have hprevails : ∀ settings ∈ (Outline.ofValue Twice.config).chain ["handouts"],
      settings.Prevails (Settings.handedOn ((Outline.ofValue Twice.config).chain ["handouts"]).dropLast) Twice.ownDefault.instant ∧
      ¬settings.Prevails (Settings.handedOn ((Outline.ofValue Twice.config).chain ["handouts"]).dropLast)
        Twice.inherited.instant := by decide +kernel
  rw [← habove] at hprevails
  obtain ⟨hdefault, hdated⟩ := hprevails own hown
  exact ⟨t, ht, s, hs, hpath, above, own, hchain, hearly, (hgoverns _ _ hearly).1 hdefault, hlate,
    (hgoverns _ _ hlate).2 hdated⟩

/-- A mode that the handouts set themselves gives way to the one of the same time that the course sets. -/
theorem own_deadline_lost : ∃ t, (build Twice.host Twice.config Trial.root).outcome = .ok t ∧
    ∃ s ∈ t.walk, s.path = t.path.below ["handouts"] ∧
      ((Outline.ofValue Twice.config).chain ["handouts"]).getLast?.map Settings.policies =
        some [Twice.ownDefault, Twice.own] ∧
      Twice.own.instant = Twice.inherited.instant ∧ Twice.inherited ∉ [Twice.ownDefault, Twice.own] ∧
      (s.resolve Twice.clock).toOption = some (some Twice.inherited) :=
  exists_of_built (by decide +kernel)

end Tree

end Curfew
