import Curfew.Proofs.Tree.Inheritance
import Curfew.Proofs.Tree.Interrupted

/-! Policies near the ends of the calendar. Whether a policy's time has come is found by moving that time by the local
offset, and the calendar ends. On the first day of the calendar, with an offset ahead of universal time, and on the last
day, with an offset behind it, the moved time may leave the calendar; then there is no answer, and a run that needs one
stops. -/

namespace Curfew

/-! ### One policy -/

namespace Policy
variable {p : Policy} {clock : Clock}

/-- The time of a policy, moved by the local offset of a clock, leaves the calendar at its start or at its end. -/
def Beyond (p : Policy) (clock : Clock) : Prop :=
  (p.timestamp.wall.micros : Int) < clock.utcOffset ∨ (Calendar.span : Int) ≤ p.timestamp.wall.micros - clock.utcOffset

instance (p : Policy) (clock : Clock) : Decidable (p.Beyond clock) := inferInstanceAs (Decidable (_ ∨ _))

theorem movable_iff : p.Movable clock ↔ ¬p.Beyond clock := by
  unfold Movable Beyond
  omega

theorem isEligible?_of_not_beyond (h : ¬p.Beyond clock) : p.isEligible? clock = some (decide (p.Due clock)) := by
  rw [isEligible?_eq, if_pos (movable_iff.mpr h)]

theorem isEligible?_eq_none : p.isEligible? clock = none ↔ p.Beyond clock := by
  rw [isEligible?_eq]
  by_cases h : p.Beyond clock
  · have hleaves : ¬p.Movable clock := fun hin => movable_iff.mp hin h
    simp [hleaves, h]
  · simp [movable_iff.mpr h, h]

/-- The ends of the calendar are a day long at most. -/
theorem Beyond.ends (hlow : -(microsPerDay : Int) < clock.utcOffset) (hhigh : clock.utcOffset < microsPerDay) (h : p.Beyond clock) :
    (p.timestamp.wall.micros < microsPerDay ∧ 0 < clock.utcOffset) ∨
      (Calendar.span < p.timestamp.wall.micros + microsPerDay ∧ clock.utcOffset < 0) := by
  have hin := p.timestamp.wall.inCalendar
  unfold Beyond at h
  rcases h with hstart | hend
  · left
    omega
  · right
    omega

end Policy

/-! ### One node -/

namespace Standing
variable {s : Standing} {clock : Clock} {fault : TreeFault}

/-- The latest policy of a node that is not excluded leaves the calendar. -/
def Overruns (s : Standing) (clock : Clock) : Prop :=
  s.isExcluded = false ∧ ∃ last, Policy.IsLatest s.policies last ∧ last.Beyond clock

theorem resolve_eq_error : s.resolve clock = .error fault ↔ fault = .outOfCalendar ∧ s.Overruns clock := by
  constructor
  · intro hr
    unfold resolve at hr
    cases hlast : Policy.latest s.policies with
    | none =>
      rw [hlast] at hr
      cases hr
    | some last =>
      simp only [hlast] at hr
      cases hexcluded : s.isExcluded with
      | true =>
        rw [if_pos hexcluded] at hr
        cases hr
      | false =>
        simp only [hexcluded, Bool.false_eq_true, ↓reduceIte] at hr
        split at hr
        · rename_i hnone
          obtain rfl := Except.error.inj hr
          exact ⟨rfl, hexcluded, last, Policy.latest_eq_some.mp hlast, Policy.isEligible?_eq_none.mp hnone⟩
        · cases hr
        · cases hr
  · rintro ⟨rfl, hexcluded, last, hlast, hbeyond⟩
    exact (s.resolves clock).beyond last hlast hexcluded fun hin => Policy.movable_iff.mp hin hbeyond

theorem wantedMode_eq_outOfCalendar {i : EntryInfo} :
    s.wantedMode clock i = .error .outOfCalendar ↔ i.isLink = false ∧ s.Overruns clock := by
  unfold wantedMode
  cases hlink : i.isLink with
  | true => simp
  | false =>
    have hoverruns : s.Overruns clock ↔ s.resolve clock = .error .outOfCalendar := by simp [resolve_eq_error]
    rw [hoverruns]
    rcases hr : s.resolve clock with refused | (_ | p)
    · simp
    · simp
    · cases hc : Mode.compile (p.modeFor i.isDirectory) i.mode i.isDirectory <;> simp [hc, mapError_ok, mapError_error]

end Standing

namespace Host
variable {h : Host} {clock : Clock} {isDryRun : Bool} {s : Standing}

theorem plan_eq_outOfCalendar : h.plan clock s = .error .outOfCalendar ↔
    ∃ i, h.stat s.path = .ok i ∧ i.isLink = false ∧ s.Overruns clock := by
  simp only [← Standing.wantedMode_eq_outOfCalendar]
  unfold plan
  cases hi : h.stat s.path with
  | error fault => simp
  | ok i =>
    simp only [Except.ok.injEq, exists_eq_left']
    cases hm : s.wantedMode clock i with
    | error fault => simp
    | ok mode =>
      -- Looking up the group does not look at the calendar.
      unfold wantedGid
      cases hs : s.group.isEmpty with
      | true => simp
      | false => cases h.groupId s.group <;> simp [mapError_ok, mapError_error]

theorem handle_eq_outOfCalendar : h.handle clock isDryRun s = .error .outOfCalendar ↔
    ∃ i, h.stat s.path = .ok i ∧ i.isLink = false ∧ s.Overruns clock := by
  rw [← plan_eq_outOfCalendar]
  unfold handle
  cases hp : h.plan clock s with
  | error fault => simp
  | ok p =>
    -- Writing does not look at the calendar either.
    have hperform : h.perform isDryRun s p ≠ .error .outOfCalendar := by
      intro hf
      unfold perform at hf
      split at hf
      · cases hf
      · split at hf
        · cases hf
        · split at hf <;> cases hf
    simp [hperform]

end Host

/-! ### Runs -/

namespace Tree

theorem Progress.steps_eq_fault {clock : Clock} {ss : List Standing} {x : Progress} {fault : TreeFault} :
    (steps clock ss x).1 = some fault ↔ ∃ before s after, ss = before ++ s :: after ∧ (steps clock before x).1 = none ∧
      (steps clock before x).2.host.handle clock (steps clock before x).2.report.isDryRun s = .error fault := by
  constructor
  · intro hf
    cases hx : steps clock ss x with
    | mk stopped x' =>
      rw [hx] at hf
      obtain rfl : stopped = some fault := hf
      obtain ⟨before, s, after, hss, hok, hhost, hh⟩ := steps_stopped ss hx
      exact ⟨before, s, after, hss, hok, hhost ▸ hh⟩
  · rintro ⟨before, s, after, rfl, hok, hh⟩
    rw [steps_append]
    cases hx : steps clock before x with
    | mk stopped x' =>
      rw [hx] at hok hh
      obtain rfl : stopped = none := hok
      have hstep : x'.step clock s = (some fault, x'.visit x'.host none) := by
        unfold step
        rw [hh]
      simp only [steps_cons, hstep]

theorem apply_eq_outOfCalendar {t : Tree} {h : Host} {clock : Clock} {isDryRun : Bool} :
    (t.apply h clock isDryRun).fault = some .outOfCalendar ↔ ∃ before s after i, t.managed = before ++ s :: after ∧
      (Progress.steps clock before ⟨h, .empty isDryRun⟩).1 = none ∧
      (Progress.steps clock before ⟨h, .empty isDryRun⟩).2.host.stat s.path = .ok i ∧ i.isLink = false ∧
      s.Overruns clock := by
  rw [(apply_eq t h clock isDryRun).1, Progress.steps_eq_fault]
  simp only [Host.handle_eq_outOfCalendar]
  constructor
  · rintro ⟨before, s, after, hm, hok, i, hi, hlink, hoverruns⟩
    exact ⟨before, s, after, i, hm, hok, hi, hlink, hoverruns⟩
  · rintro ⟨before, s, after, i, hm, hok, hi, hlink, hoverruns⟩
    exact ⟨before, s, after, hm, hok, i, hi, hlink, hoverruns⟩

end Tree

/-! ### All that a clock decides -/

/-- How far a clock gives an answer, and that it is the right one. -/
structure Clock.Decides (clock : Clock) : Prop where
  /-- There is no answer for the policies whose moved time leaves the calendar. -/
  undefined : ∀ p : Policy, p.isEligible? clock = none ↔ p.Beyond clock
  /-- The answer for another policy compares whole numbers of microseconds. -/
  exact : ∀ p : Policy, ¬p.Beyond clock → p.isEligible? clock = some (decide (p.instant - clock.utcOffset ≤ clock.instant.instant))
  /-- Only times of the first or the last day are moved out of the calendar, and only by an offset of one sign. -/
  ends : ∀ p : Policy, p.Beyond clock → (p.timestamp.wall.micros < microsPerDay ∧ 0 < clock.utcOffset) ∨
    (Calendar.span < p.timestamp.wall.micros + microsPerDay ∧ clock.utcOffset < 0)
  /-- A node has no policy chosen for it just if its latest one is such a policy and the node is not excluded. -/
  nodes : ∀ (s : Standing) (fault : TreeFault), s.resolve clock = .error fault ↔ fault = .outOfCalendar ∧ s.Overruns clock
  /-- A run is stopped for it just at the first such node that is there and is no link. -/
  runs : ∀ (t : Tree) (h : Host) (isDryRun : Bool), (t.apply h clock isDryRun).fault = some .outOfCalendar ↔
    ∃ before s after i, t.managed = before ++ s :: after ∧
      (Tree.Progress.steps clock before ⟨h, .empty isDryRun⟩).1 = none ∧
      (Tree.Progress.steps clock before ⟨h, .empty isDryRun⟩).2.host.stat s.path = .ok i ∧ i.isLink = false ∧
      s.Overruns clock

theorem Clock.decides_of_offset {clock : Clock} (hlow : -(microsPerDay : Int) < clock.utcOffset)
    (hhigh : clock.utcOffset < microsPerDay) : clock.Decides where
  undefined _ := Policy.isEligible?_eq_none
  exact _ h := Policy.isEligible?_of_not_beyond h
  ends _ h := h.ends hlow hhigh
  nodes _ _ := Standing.resolve_eq_error
  runs _ _ _ := Tree.apply_eq_outOfCalendar

/-! ### A deadline that never comes -/

namespace Sentinel

/-- The last minute of the calendar. -/
def date : When := .wall ⟨Calendar.span - 60000000, by decide⟩

def policy : Policy := .dated date { dir := "0700", file := "0600" }

/-- The second midnight of 2029. -/
def instant : Stamp := .utc (.midnight ⟨740713, by decide⟩)

def clock : Clock := { instant, utcOffset := -7200000000 }

def host : Host := Tree.Trial.host [("notes", Tree.Trial.file 0o644)] []

def config : Value := .map [(.text "mode", .text "0644"), (.time date, .map [(.text "dir", .text "0700"), (.text "file", .text "0600")])]

def hasOverrun : Option TreeFault → Bool
  | some .outOfCalendar => true
  | _ => false

end Sentinel

theorem Clock.decides_of_offset_sentinel : Clock.of? (.stamp Sentinel.instant) (-7200000000) = .ok Sentinel.clock ∧
    Sentinel.clock.Decides :=
  ⟨by decide, decides_of_offset (by decide) (by decide)⟩

/-- Of a deadline that is still far away the clock says nothing, and a run is stopped for it. -/
theorem Clock.sentinel_undecided : Clock.of? (.stamp Sentinel.instant) (-7200000000) = .ok Sentinel.clock ∧
    ¬Sentinel.policy.instant - Sentinel.clock.utcOffset ≤ Sentinel.clock.instant.instant ∧
    Sentinel.policy.isEligible? Sentinel.clock = none ∧
    ∃ t, (Tree.build Sentinel.host Sentinel.config Tree.Trial.root).outcome = .ok t ∧
      Sentinel.hasOverrun (t.apply Sentinel.host Sentinel.clock false).fault = true :=
  ⟨by decide, by decide, by decide, Tree.exists_of_built (by decide +kernel)⟩

end Curfew
