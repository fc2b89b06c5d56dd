import Curfew.Proofs.Host.Clocked
import Curfew.Proofs.Time.Freezing
import Curfew.Proofs.Tree.Build
import Curfew.Proofs.Tree.Expressions
import Curfew.Proofs.Tree.Steps

/-! Runs at a wall time in different zones. A run asks a clock only which policies have had their time, and by a clock
frozen at a wall time this is the same in all zones; so a run at a wall time comes to the same in all zones. -/

namespace Curfew

/-! ### Clocks that resolve alike -/

theorem Standing.resolve_congr {s : Standing} {c c' : Clock}
    (hsame : ∀ p ∈ s.policies, p.isEligible? c = p.isEligible? c') : s.resolve c = s.resolve c' := by
  unfold resolve
  cases hlatest : Policy.latest s.policies with
  | none => rfl
  | some latest => simp only [hsame latest (Policy.mem_of_latest hlatest)]

namespace Tree

namespace Running

theorem node_congr {s : Standing} {c c' : Clock} (hsame : s.resolve c = s.resolve c') : node c s = node c' s := by
  unfold node applyEntry resolveMode
  rw [hsame]

theorem forM_node_congr {c c' : Clock} (ss : List Standing) (hsame : ∀ s ∈ ss, s.resolve c = s.resolve c') :
    forM ss (node c) = forM ss (node c') := by
  induction ss with
  | nil => rfl
  | cons s ss ih =>
    obtain ⟨hs, hss⟩ := List.forall_mem_cons.mp hsame
    rw [List.forM_cons, List.forM_cons, node_congr hs, ih hss]

end Running

/-- Clocks by which all nodes resolve alike give one run. -/
theorem apply_congr_clock {t : Tree} {c c' : Clock} (hsame : ∀ s ∈ t.managed, s.resolve c = s.resolve c') (h : Host)
    (isDryRun : Bool) : t.apply h c isDryRun = t.apply h c' isDryRun := by
  have hroot : applyRoot c t = applyRoot c' t := by
    obtain ⟨hdeclared, hdiscovered⟩ := List.forall_mem_append.mp hsame
    unfold applyRoot
    rw [Running.applyAll_eq, Running.applyAll_eq, Running.applyAll_eq, Running.applyAll_eq,
      Running.forM_node_congr _ hdeclared, Running.forM_node_congr _ hdiscovered]
  unfold apply
  rw [hroot]

end Tree

/-! ### Hosts at other times -/

namespace Host

variable {h : Host} {zone : Offset} {now : WallTime}

theorem write_clocked (p : Plan) (path : Path) :
    p.write path (h.clocked zone now) = (p.write path h).map (·.clocked zone now) := by
  have hmode : ∀ h : Host, p.setMode path (h.clocked zone now) = (p.setMode path h).map (·.clocked zone now) := by
    intro h
    unfold Plan.setMode
    split
    · rfl
    · exact chmod_clocked path p.mode
  have hgroup : p.setGroup path (h.clocked zone now) = (p.setGroup path h).map (·.clocked zone now) := by
    unfold Plan.setGroup
    split
    · rfl
    · exact chgrp_clocked path p.gid
  unfold Plan.write
  rw [hgroup]
  rcases p.setGroup path h with fault | h'
  · rfl
  · exact hmode h'

theorem handle_clocked (clock : Clock) (isDryRun : Bool) (s : Standing) :
    (h.clocked zone now).handle clock isDryRun s =
      (h.handle clock isDryRun s).map fun done => (done.1.clocked zone now, done.2) := by
  have hplan : (h.clocked zone now).plan clock s = h.plan clock s := rfl
  unfold handle perform
  rw [hplan]
  cases h.plan clock s with
  | error fault => rfl
  | ok p =>
    dsimp only
    cases p.change? s isDryRun with
    | none => rfl
    | some c =>
      cases isDryRun with
      | true => rfl
      | false =>
        dsimp only
        rw [write_clocked]
        rcases p.write s.path h with fault | h' <;> rfl

end Host

/-! ### Runs -/

namespace Tree

section
variable {zone : Offset} {now : WallTime}

def Progress.clocked (x : Progress) (zone : Offset) (now : WallTime) : Progress := { x with host := x.host.clocked zone now }

namespace Progress

theorem step_clocked (clock : Clock) (s : Standing) (x : Progress) :
    (x.clocked zone now).step clock s = ((x.step clock s).1, (x.step clock s).2.clocked zone now) := by
  have hhandle : (x.clocked zone now).host.handle clock (x.clocked zone now).report.isDryRun s = _ :=
    Host.handle_clocked clock x.report.isDryRun s
  unfold step
  rw [hhandle]
  rcases x.host.handle clock x.report.isDryRun s with fault | ⟨h', c⟩ <;> rfl

theorem steps_clocked (clock : Clock) (ss : List Standing) : ∀ x : Progress,
    steps clock ss (x.clocked zone now) = ((steps clock ss x).1, (steps clock ss x).2.clocked zone now) := by
  induction ss with
  | nil => exact fun x => rfl
  | cons s ss ih =>
    intro x
    rw [steps_cons, steps_cons, step_clocked]
    rcases x.step clock s with ⟨_ | fault, x'⟩
    · exact ih x'
    · rfl

end Progress

end

/-- The zone and the time of a host do not bear on a run whose clock is given. -/
theorem apply_clocked (t : Tree) (h : Host) (clock : Clock) (isDryRun : Bool) (zone : Offset) (now : WallTime) :
    (t.apply (h.clocked zone now) clock isDryRun).fault = (t.apply h clock isDryRun).fault ∧
      (t.apply (h.clocked zone now) clock isDryRun).run.progress = (t.apply h clock isDryRun).run.progress.clocked zone now := by
  obtain ⟨hfault, hrun⟩ := apply_eq t h clock isDryRun
  obtain ⟨hfault', hrun'⟩ := apply_eq t (h.clocked zone now) clock isDryRun
  let x : Progress := ⟨h, .empty isDryRun⟩
  have hsteps : Progress.steps clock t.managed ⟨h.clocked zone now, .empty isDryRun⟩ =
      ((Progress.steps clock t.managed x).1, (Progress.steps clock t.managed x).2.clocked zone now) :=
    Progress.steps_clocked clock t.managed x
  rw [hsteps] at hfault' hrun'
  rw [hfault, hfault', hrun, hrun']
  rcases Progress.steps clock t.managed x with ⟨_ | fault, x⟩ <;> exact ⟨rfl, rfl⟩

/-- A run by a clock frozen at a wall time comes to the same in two zones, as long as no time that is needed leaves the
calendar; and a policy dated by a wall time or a day has had its time if that is not after the wall time. -/
theorem zone_does_not_matter {n : WallTime} {zone zone' : Offset} {c c' : Clock} {t : Tree}
    (hc : Clock.freeze zone (.wall n) = .ok c) (hc' : Clock.freeze zone' (.wall n) = .ok c')
    (hp : ∀ s ∈ t.managed, ∀ p ∈ s.policies,
      (p.timestamp.shift? (-zone.micros)).isSome ∧ (p.timestamp.shift? (-zone'.micros)).isSome)
    (h : Host) (now now' : WallTime) (isDryRun : Bool) :
    ((t.apply (h.clocked zone now) c isDryRun).fault = (t.apply (h.clocked zone' now') c' isDryRun).fault ∧
      (t.apply (h.clocked zone now) c isDryRun).run.report = (t.apply (h.clocked zone' now') c' isDryRun).run.report ∧
      (t.apply (h.clocked zone now) c isDryRun).run.host.disk = (t.apply (h.clocked zone' now') c' isDryRun).run.host.disk) ∧
    ∀ (date : When) (w : WallTime) (spec : ModeSpec), date.wall? = some w →
      ((Policy.dated date spec).timestamp.shift? (-zone.micros)).isSome →
      (Policy.dated date spec).isEligible? c = some (decide (w.micros ≤ n.micros)) := by
  constructor
  · have hresolve : ∀ s ∈ t.managed, s.resolve c = s.resolve c' := fun s hs =>
      Standing.resolve_congr fun p hmem => by
        obtain ⟨hshift, hshift'⟩ := hp s hs p hmem
        rw [Policy.isEligible?_of_freeze hc hshift, Policy.isEligible?_of_freeze hc' hshift']
    obtain ⟨hfault, hrun⟩ := apply_clocked t h c isDryRun zone now
    obtain ⟨hfault', hrun'⟩ := apply_clocked t h c isDryRun zone' now'
    rw [← apply_congr_clock hresolve (h.clocked zone' now') isDryRun]
    refine ⟨hfault.trans hfault'.symm, ?_, ?_⟩
    · exact (congrArg Progress.report hrun).trans (congrArg Progress.report hrun').symm
    · exact (congrArg (·.host.disk) hrun).trans (congrArg (·.host.disk) hrun').symm
  · intro date w spec hw hshift
    rw [Policy.isEligible?_of_freeze hc hshift, Policy.instant_dated hw]
    simp only [Int.ofNat_le]

/-! ### Morning in two zones -/

namespace Morning

def host : Host := Trial.host [("notes", Trial.file 0o644)] []

/-- Nine in the morning of the first day of June 2025. -/
def nine : WallTime := ⟨739402 * microsPerDay + 9 * 3600000000, by decide⟩

/-- A config with a deadline at nine and one at the midnight before. -/
def config : Value :=
  .map [(.text "mode", .text "0644"), (.time (.day ⟨739402, by decide⟩), .text "0640"), (.time (.wall nine), .text "0600")]

/-- Nine hours ahead of universal time. -/
def east : Offset := ⟨9 * 3600000000, by decide⟩

/-- Five hours behind universal time. -/
def west : Offset := ⟨-5 * 3600000000, by decide⟩

end Morning

theorem zone_does_not_matter_course : ∃ t c c', (build Morning.host Morning.config Trial.root).outcome = .ok t ∧
    Clock.freeze Morning.east (.wall Morning.nine) = .ok c ∧ Clock.freeze Morning.west (.wall Morning.nine) = .ok c' ∧
    (t.apply (Morning.host.clocked Morning.east Morning.nine) c false).run.report =
      (t.apply (Morning.host.clocked Morning.west Morning.nine) c' false).run.report ∧
    (t.apply (Morning.host.clocked Morning.east Morning.nine) c false).run.host.disk.infoAt ["course", "notes"] =
      some { mode := 0o600, gid := 0, kind := .file } ∧
    (Policy.dated (.wall Morning.nine) { dir := "0600", file := "0600" }).isEligible? c = some true := by
  obtain ⟨c, hc, hc_eq⟩ : ∃ c, Clock.freeze Morning.east (.wall Morning.nine) = .ok c ∧
      c = ⟨.utc ⟨739402 * microsPerDay, by decide⟩, Morning.east.micros⟩ := exists_of_ok (by decide +kernel)
  obtain ⟨c', hc', -⟩ : ∃ c, Clock.freeze Morning.west (.wall Morning.nine) = .ok c ∧ c.utcOffset = Morning.west.micros :=
    exists_of_ok (by decide +kernel)
  subst hc_eq
  obtain ⟨t, ht, hshifts, hleft⟩ : ∃ t, (build Morning.host Morning.config Trial.root).outcome = .ok t ∧
      (∀ s ∈ t.managed, ∀ p ∈ s.policies,
        (p.timestamp.shift? (-Morning.east.micros)).isSome ∧ (p.timestamp.shift? (-Morning.west.micros)).isSome) ∧
      (t.apply (Morning.host.clocked Morning.east Morning.nine)
        ⟨.utc ⟨739402 * microsPerDay, by decide⟩, Morning.east.micros⟩ false).run.host.disk.infoAt ["course", "notes"] =
          some { mode := 0o600, gid := 0, kind := .file } := exists_of_built (by decide +kernel)
  obtain ⟨⟨-, hreport, -⟩, heligible⟩ := zone_does_not_matter hc hc' hshifts Morning.host Morning.nine Morning.nine false
  have hnine := heligible (.wall Morning.nine) Morning.nine { dir := "0600", file := "0600" } rfl (by decide +kernel)
  rw [decide_eq_true (Nat.le_refl _)] at hnine
  exact ⟨t, _, c', ht, hc, hc', hreport, hleft, hnine⟩

end Tree

end Curfew
