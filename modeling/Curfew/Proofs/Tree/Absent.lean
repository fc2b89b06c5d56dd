import Curfew.Proofs.Host.Absence
import Curfew.Proofs.Tree.CalendarEnd
import Curfew.Proofs.Tree.DryRun

/-! Nodes that are not there. A run that comes to a node looks for its entry before anything else and is stopped where
there is none. With which fault depends on how the path is absent: it is unavailable only where a directory lacks a name
of it. -/

namespace Curfew

/-- What the disk said, where a fault comes from the disk. -/
def TreeFault.disk? : TreeFault → Option DiskFault
  | .disk fault => some fault
  | _ => none

/-! ### One node -/

theorem Standing.wantedMode_ne_disk {s : Standing} {clock : Clock} {i : EntryInfo} (fault : DiskFault) :
    s.wantedMode clock i ≠ .error (.disk fault) := by
  intro hm
  unfold wantedMode at hm
  split at hm
  · cases hm
  · split at hm
    · rename_i refused hr
      cases hm
      cases (resolve_eq_error.mp hr).1
    · cases hm
    · obtain ⟨_, -, hf⟩ := mapError_eq_error.mp hm
      cases hf

/-- A group that is refused does not make the path unavailable. -/
theorem Plan.refusal?_ne_unavailable {p : Plan} {path : Path} {h : Host} (q : Path) :
    p.refusal? path h ≠ some (.pathUnavailable q) := by
  unfold refusal? Host.wantedGroup
  split
  · simp
  · split
    · rename_i fault hw
      split at hw
      · cases hw
      · split at hw <;> cases hw
        simp
    · split <;> simp

namespace Host
variable {h : Host} {clock : Clock} {isDryRun : Bool} {s : Standing} {q : Path}

theorem handle_eq_error {fault : TreeFault} : h.handle clock isDryRun s = .error fault ↔ h.fault? clock isDryRun s = some fault := by
  refine ⟨fun hh => ?_, handle_of_fault?⟩
  cases hf : h.fault? clock isDryRun s with
  | some fault' =>
    rw [handle_of_fault? hf] at hh
    rw [Except.error.inj hh]
  | none =>
    obtain ⟨r, hr⟩ := handle_of_fault?_eq_none hf
    cases hh.symm.trans hr

/-- Nothing is done for a node that cannot be looked at. -/
theorem handle_of_stat {fault : DiskFault} (hs : h.stat s.path = .error fault) (isDryRun : Bool) :
    h.handle clock isDryRun s = .error (.disk fault) := by
  unfold handle plan
  rw [hs]

theorem plan_eq_unavailable : h.plan clock s = .error (.disk (.pathUnavailable q)) ↔ h.stat s.path = .error (.pathUnavailable q) := by
  unfold plan
  cases hs : h.stat s.path with
  | error fault => simp
  | ok i =>
    simp only [reduceCtorEq, iff_false]
    cases hm : s.wantedMode clock i with
    | error fault =>
      have hmode : fault ≠ .disk (.pathUnavailable q) := fun hf => Standing.wantedMode_ne_disk (.pathUnavailable q) (hf ▸ hm)
      simpa using hmode
    | ok mode =>
      -- Looking up a group is no matter of paths.
      unfold wantedGid groupId
      cases s.group.isEmpty with
      | true => simp
      | false => cases h.groups.lookup s.group <;> simp [mapError_ok, mapError_error]

/-- Only looking at the entry of a node finds its path unavailable. -/
theorem handle_eq_unavailable : h.handle clock isDryRun s = .error (.disk (.pathUnavailable q)) ↔
    h.stat s.path = .error (.pathUnavailable q) := by
  rw [handle_eq_error, ← plan_eq_unavailable]
  unfold fault?
  cases hp : h.plan clock s with
  | error fault => simp
  | ok p =>
    have hrefusal : p.refusal? s.path h ≠ some (.pathUnavailable q) := Plan.refusal?_ne_unavailable q
    cases isDryRun <;> simp [hrefusal]

end Host

/-! ### Runs -/

namespace Tree

section
variable {h₀ h moment : Host} {config : Value} {root : Path} {t : Tree} {clock : Clock} {isDryRun : Bool} {s : Standing}

/-- A run comes to a node: it has handled those before it, and this is the host by then. -/
def ComesTo (t : Tree) (h : Host) (clock : Clock) (isDryRun : Bool) (s : Standing) (moment : Host) : Prop :=
  ∃ before after, t.managed = before ++ s :: after ∧ (Progress.steps clock before ⟨h, .empty isDryRun⟩).1 = none ∧
    (Progress.steps clock before ⟨h, .empty isDryRun⟩).2.host = moment

theorem Progress.steps_of_handle {before after : List Standing} {x : Progress} {fault : TreeFault}
    (hok : (steps clock before x).1 = none)
    (hh : (steps clock before x).2.host.handle clock (steps clock before x).2.report.isDryRun s = .error fault) :
    (steps clock (before ++ s :: after) x).1 = some fault ∧
      (steps clock (before ++ s :: after) x).2.host = (steps clock before x).2.host := by
  rw [steps_append]
  cases hx : steps clock before x with
  | mk stopped x' =>
    rw [hx] at hok hh
    obtain rfl : stopped = none := hok
    have hstep : x'.step clock s = (some fault, x'.visit x'.host none) := by
      unfold step
      rw [hh]
    simp only [steps_cons, hstep, true_and]
    rfl

/-- A run that comes to a node which cannot be looked at stops there and leaves all as it is by then. -/
theorem ComesTo.stops {fault : DiskFault} (hc : t.ComesTo h clock isDryRun s moment) (hs : moment.stat s.path = .error fault) :
    (t.apply h clock isDryRun).fault = some (.disk fault) ∧ (t.apply h clock isDryRun).run.host = moment := by
  obtain ⟨before, after, hm, hok, rfl⟩ := hc
  rw [(apply_eq t h clock isDryRun).1, apply_host, hm]
  exact Progress.steps_of_handle hok (Host.handle_of_stat hs _)

theorem apply_eq_unavailable {p : Path} : (t.apply h clock isDryRun).fault = some (.disk (.pathUnavailable p)) ↔
    ∃ s moment, t.ComesTo h clock isDryRun s moment ∧ moment.stat s.path = .error (.pathUnavailable p) := by
  rw [(apply_eq t h clock isDryRun).1, Progress.steps_eq_fault]
  simp only [Host.handle_eq_unavailable]
  constructor
  · rintro ⟨before, s, after, hm, hok, hs⟩
    exact ⟨s, _, ⟨before, after, hm, hok, rfl⟩, hs⟩
  · rintro ⟨s, _, ⟨before, after, hm, hok, rfl⟩, hs⟩
    exact ⟨before, s, after, hm, hok, hs⟩

/-- The paths of a built tree go out from the top, where there is always an entry. -/
theorem ComesTo.exists_start (hb : (build h₀ config root).outcome = .ok t) (hc : t.ComesTo h clock isDryRun s moment) :
    ∃ e, moment.disk.get? (moment.start s.path) = some e := by
  obtain ⟨before, after, hm, -, -⟩ := hc
  have hs : s ∈ t.walk := by
    rw [walk_eq, hm]
    simp
  obtain ⟨names, hpath, -⟩ := policies_of_walk hb hs
  have hroot : s.path.root ≠ .working := by
    rw [hpath, path_build hb]
    exact h₀.absolute_root root
  unfold Host.start
  rw [if_neg hroot]
  exact ⟨moment.disk, rfl⟩

/-- Where a run comes to a node whose path leads to no entry it stops, with all as it is by then, and its fault tells how
the path is absent. The path is reported as unavailable just where a directory on the way lacks the next name, and in
every run that reports a path as unavailable it has come to a node with that path, which is absent in that way. -/
theorem apply_of_absent (hb : (build h₀ config root).outcome = .ok t) (h : Host) (clock : Clock) (isDryRun : Bool) :
    (∀ s moment, t.ComesTo h clock isDryRun s moment → (∀ l e, moment.look s.path false ≠ .ok (l, e)) →
      ∃ fault, (t.apply h clock isDryRun).fault = some (.disk fault) ∧ (t.apply h clock isDryRun).run.host = moment ∧
        moment.Absence s.path fault ∧
        (fault = .pathUnavailable s.path ↔ Resolved.checkText s.path.text = .ok () ∧ moment.Lacks s.path)) ∧
    ∀ p, (t.apply h clock isDryRun).fault = some (.disk (.pathUnavailable p)) ↔
      ∃ s moment, t.ComesTo h clock isDryRun s moment ∧ s.path = p ∧ Resolved.checkText p.text = .ok () ∧ moment.Lacks p := by
  constructor
  · intro s moment hc habsent
    rcases Host.look_or_absence (hc.exists_start hb) with ⟨l, e, hl⟩ | ⟨fault, ha⟩
    · exact absurd hl (habsent l e)
    · obtain ⟨hfault, hhost⟩ := hc.stops (Host.stat_of_absence ha)
      refine ⟨fault, hfault, hhost, ha, ?_⟩
      rw [ha.eq_unavailable_iff]
      simp
  · intro p
    rw [apply_eq_unavailable]
    constructor
    · rintro ⟨s, moment, hc, hs⟩
      have ha := (Host.stat_eq_error (hc.exists_start hb)).mp hs
      obtain ⟨rfl, htext, hlacks⟩ := (ha.eq_unavailable_iff p).mp rfl
      exact ⟨s, moment, hc, rfl, htext, hlacks⟩
    · rintro ⟨s, moment, hc, rfl, htext, hlacks⟩
      exact ⟨s, moment, hc, Host.stat_of_absence (.lacking htext hlacks)⟩

end

/-! ### Below a file -/

namespace BelowFile

/-- A course whose notes are a file. -/
def host : Host := Trial.host [("notes", Trial.file 0o644)] []

/-- A config that takes the notes for a directory. -/
def config : Value := .map [(.text "notes", .map [(.text "a", .null)])]

/-- What the config declares in the notes. -/
def path : Path := Trial.root.below ["notes", "a"]

end BelowFile

theorem apply_of_absent_course : ∃ t, (build BelowFile.host BelowFile.config Trial.root).outcome = .ok t ∧
    ∃ fault, (t.apply BelowFile.host Trial.clock false).fault = some (.disk fault) ∧
      (t.apply BelowFile.host Trial.clock false).run.host = BelowFile.host ∧
      BelowFile.host.Absence BelowFile.path fault := by
  obtain ⟨t, ht, hfirst⟩ : ∃ t, (build BelowFile.host BelowFile.config Trial.root).outcome = .ok t ∧
      t.managed.head?.map (·.path) = some BelowFile.path := exists_of_built (by decide +kernel)
  obtain ⟨s, hs, hpath⟩ := Option.map_eq_some_iff.mp hfirst
  obtain ⟨after, hafter⟩ := List.head?_eq_some_iff.mp hs
  have hc : t.ComesTo BelowFile.host Trial.clock false s BelowFile.host := ⟨[], after, hafter, rfl, rfl⟩
  have hnone : (BelowFile.host.look BelowFile.path false).toOption = none := by decide +kernel
  have habsent : ∀ l e, BelowFile.host.look s.path false ≠ .ok (l, e) := by
    intro l e hl
    rw [hpath] at hl
    simp [hl, Except.toOption] at hnone
  obtain ⟨fault, hfault, hhost, ha, -⟩ := (apply_of_absent ht BelowFile.host Trial.clock false).1 s BelowFile.host hc habsent
  exact ⟨t, ht, fault, hfault, hhost, hpath ▸ ha⟩

/-- What is declared below a file is absent, and it is not reported as unavailable. -/
theorem below_file_not_unavailable : ∃ t, (build BelowFile.host BelowFile.config Trial.root).outcome = .ok t ∧
    t.managed.head?.map (·.path) = some BelowFile.path ∧ (BelowFile.host.look BelowFile.path false).toOption = none ∧
    (t.apply BelowFile.host Trial.clock false).fault.bind TreeFault.disk? = some (.system .notDirectory BelowFile.path) :=
  exists_of_built (by decide +kernel)

end Tree

end Curfew
