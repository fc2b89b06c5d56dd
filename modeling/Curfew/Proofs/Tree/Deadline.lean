import Curfew.Proofs.Disk.Shape
import Curfew.Proofs.Tree.Expressions
import Curfew.Tree.Apply

/-! When deadlines act. A dated policy that governs a node has had its time, or it is the earliest one of the node,
which takes that no default comes before it. -/

namespace Curfew

namespace Policy

def earlier (best q : Policy) : Policy := if q.instant < best.instant then q else best

theorem earliest_cons (p : Policy) (ps : List Policy) : earliest (p :: ps) = some (ps.foldl earlier p) := rfl

/-- Going on along policies changes the earliest so far only for an earlier one. -/
theorem foldl_earlier (ps : List Policy) : ∀ best : Policy, ps.foldl earlier best = best ∨
    ps.foldl earlier best ∈ ps ∧ (ps.foldl earlier best).instant < best.instant := by
  induction ps with
  | nil => exact fun best => Or.inl rfl
  | cons q ps ih =>
    intro best
    rw [List.foldl_cons, earlier]
    by_cases hq : q.instant < best.instant
    · rw [if_pos hq]
      rcases ih q with h | ⟨hmem, hlt⟩
      · rw [h]
        exact Or.inr ⟨List.mem_cons_self, hq⟩
      · exact Or.inr ⟨List.mem_cons_of_mem _ hmem, Int.lt_trans hlt hq⟩
    · rw [if_neg hq]
      exact (ih best).imp id fun ⟨hmem, hlt⟩ => ⟨List.mem_cons_of_mem _ hmem, hlt⟩

/-- The earliest of two lists is one of the first, or earlier than one of the first. -/
theorem earliest_append {ps qs : List Policy} {p : Policy} (h : earliest (ps ++ qs) = some p) :
    p ∈ ps ∨ ps = [] ∨ ∃ q ∈ ps, p.instant < q.instant := by
  cases ps with
  | nil => exact Or.inr (Or.inl rfl)
  | cons first ps =>
    rw [List.cons_append, earliest_cons, List.foldl_append, Option.some.injEq] at h
    have hbest := mem_of_earliest (earliest_cons first ps)
    rcases foldl_earlier qs (ps.foldl earlier first) with hsame | ⟨-, hlt⟩
    · rw [← h, hsame]
      exact Or.inl hbest
    · rw [h] at hlt
      exact Or.inr (Or.inr ⟨_, hbest, hlt⟩)

end Policy

/-- A policy of a chain of settings that comes from a dated key and is no default as well. -/
def Settings.IsDated (chain : List Settings) (p : Policy) : Prop :=
  p ∈ Settings.datedPolicies chain ∧ p ∉ Settings.defaults chain

instance (chain : List Settings) (p : Policy) : Decidable (Settings.IsDated chain p) :=
  inferInstanceAs (Decidable (_ ∧ _))

theorem Settings.instant_of_mem_defaults {chain : List Settings} {p : Policy} (hp : p ∈ Settings.defaults chain) :
    p.instant = Policy.epoch.instant := by
  obtain ⟨settings, -, hp⟩ := List.mem_filterMap.mp hp
  obtain ⟨spec, -, rfl⟩ := Option.map_eq_some_iff.mp hp
  rfl

namespace Tree

section
variable {h : Host} {config : Value} {root : Path} {t : Tree} {s : Standing} {clock : Clock} {p : Policy}

/-- A dated policy that governs a node has had its time, or it is the earliest policy of the node; the latter only if
no default holds on the way to the node, or the policy is dated before the epoch. -/
theorem eligible_of_isDated (hb : (build h config root).outcome = .ok t) (hs : s ∈ t.walk)
    (hr : s.resolve clock = .ok (some p)) :
    ∃ names, s.path = t.path.below names ∧ (Settings.IsDated ((Outline.ofValue config).chain names) p →
      p.isEligible? clock = some true ∨ Policy.earliest s.policies = some p ∧
        (Settings.defaults ((Outline.ofValue config).chain names) = [] ∨ p.instant < Policy.epoch.instant)) := by
  obtain ⟨names, hpath, hpolicies⟩ := policies_of_walk hb hs
  refine ⟨names, hpath, fun hdated => ?_⟩
  rcases (Standing.resolve_inv hr).symm with ⟨-, heligible⟩ | hearliest
  · exact Or.inl heligible
  · refine Or.inr ⟨hearliest, ?_⟩
    -- Defaults come before dated policies, so a dated one is the earliest only by an earlier time.
    rw [hpolicies] at hearliest
    rcases Policy.earliest_append hearliest with hdefault | hnone | ⟨q, hq, hlt⟩
    · exact absurd hdefault hdated.2
    · exact Or.inl hnone
    · exact Or.inr (Settings.instant_of_mem_defaults hq ▸ hlt)

end

/-! ### A deadline without a default -/

namespace DateOnly

/-- A course with one file. -/
def host : Host := Trial.host [("notes", Trial.file 0o644)] []

/-- The first day of 2030. -/
def date : When := .day ⟨741077, by decide⟩

/-- A config with a deadline and nothing else. -/
def config : Value := .map [(.time date, .text "0700")]

/-- The policy of the deadline. -/
def policy : Policy := .dated date { dir := "0700", file := "0700" }

end DateOnly

theorem eligible_of_isDated_course : ∃ t, (build DateOnly.host DateOnly.config Trial.root).outcome = .ok t ∧
    ∀ s ∈ t.walk, ∃ names, s.path = t.path.below names ∧
      (Settings.IsDated ((Outline.ofValue DateOnly.config).chain names) DateOnly.policy →
        DateOnly.policy.isEligible? Trial.clock = some true ∨ Policy.earliest s.policies = some DateOnly.policy ∧
          (Settings.defaults ((Outline.ofValue DateOnly.config).chain names) = [] ∨
            DateOnly.policy.instant < Policy.epoch.instant)) := by
  obtain ⟨t, ht, hresolve⟩ : ∃ t, (build DateOnly.host DateOnly.config Trial.root).outcome = .ok t ∧
      ∀ s ∈ t.walk, (s.resolve Trial.clock).toOption = some (some DateOnly.policy) :=
    exists_of_built (by decide +kernel)
  refine ⟨t, ht, fun s hs => eligible_of_isDated ht hs ?_⟩
  have hs' := hresolve s hs
  cases hr : s.resolve Trial.clock with
  | error fault => simp [hr, Except.toOption] at hs'
  | ok p => simpa [hr, Except.toOption] using hs'

/-- Long before its day the deadline governs all nodes, and the file is given its mode. -/
theorem deadline_acts_early : ∃ t, (build DateOnly.host DateOnly.config Trial.root).outcome = .ok t ∧
    (∀ s ∈ t.walk, (s.resolve Trial.clock).toOption = some (some DateOnly.policy)) ∧
    (∀ names ∈ [[], ["notes"]], Settings.IsDated ((Outline.ofValue DateOnly.config).chain names) DateOnly.policy) ∧
    DateOnly.policy.isEligible? Trial.clock = some false ∧
    DateOnly.host.disk.infoAt ["course", "notes"] = some { mode := 0o644, gid := 0, kind := .file } ∧
    (t.apply DateOnly.host Trial.clock false).run.host.disk.infoAt ["course", "notes"] =
      some { mode := 0o700, gid := 0, kind := .file } :=
  exists_of_built (by decide +kernel)

end Tree

end Curfew
