import Curfew.Proofs.Time.Freezing

/-! Clocks of one instant in different zones. The local offset of a clock moves every deadline, also one that has an
offset of its own: by the clock, the deadlines up to its instant and its offset together have come. So clocks of one
instant differ in the deadlines between the sums for their two offsets, and only in those. -/

namespace Curfew

/-- The instant up to which deadlines have come by a clock, in microseconds. -/
def Clock.reach (c : Clock) : Int := c.instant.instant + c.utcOffset

/-- An instant lies after one of two others and not after the other one. -/
def Parts (a b instant : Int) : Prop := min a b < instant ∧ instant ≤ max a b

theorem decide_le_eq_iff (a b instant : Int) : decide (instant ≤ a) = decide (instant ≤ b) ↔ ¬Parts a b instant := by
  rw [decide_eq_decide]
  unfold Parts
  omega

namespace Policy
variable {p : Policy} {c d : Clock}

theorem due_iff : p.Due c ↔ p.instant ≤ c.reach := by
  unfold Due Clock.reach
  omega

theorem isEligible?_of_movable (h : p.Movable c) : p.isEligible? c = some (decide (p.instant ≤ c.reach)) := by
  simp [isEligible?_eq, h, due_iff]

theorem isEligible?_congr_iff (hc : p.Movable c) (hd : p.Movable d) :
    p.isEligible? c = p.isEligible? d ↔ ¬Parts c.reach d.reach p.instant := by
  rw [isEligible?_of_movable hc, isEligible?_of_movable hd, Option.some.injEq, decide_le_eq_iff]

theorem isEligible?_absolute_iff (hc : p.Movable c) :
    p.isEligible? c = some (decide (p.instant ≤ c.instant.instant)) ↔ ¬Parts c.reach c.instant.instant p.instant := by
  rw [isEligible?_of_movable hc, Option.some.injEq, decide_le_eq_iff]

/-- A deadline with an offset of its own has come by a clock if its instant, moved by the local offset as a deadline
without one is, is not after the clock's. So clocks of one instant agree on it unless it comes after the sum of that
instant and one local offset and not after the sum for the other, and the local offset does not bear on the answer
unless the deadline is so between the instant itself and the sum. -/
theorem moved_by_local_offset (s : Stamp) (spec : ModeSpec) (hsame : c.instant.instant = d.instant.instant)
    (hc : (dated (.stamp s) spec).Movable c) (hd : (dated (.stamp s) spec).Movable d) :
    ((dated (.stamp s) spec).isEligible? c = some (decide (s.instant - c.utcOffset ≤ c.instant.instant)) ∧
      (dated (.stamp s) spec).isEligible? d = some (decide (s.instant - d.utcOffset ≤ c.instant.instant))) ∧
    ((dated (.stamp s) spec).isEligible? c = (dated (.stamp s) spec).isEligible? d ↔
      ¬Parts (c.instant.instant + c.utcOffset) (c.instant.instant + d.utcOffset) s.instant) ∧
    ((dated (.stamp s) spec).isEligible? c = some (decide (s.instant ≤ c.instant.instant)) ↔
      ¬Parts (c.instant.instant + c.utcOffset) c.instant.instant s.instant) := by
  have hanswer : ∀ b : Clock, (dated (.stamp s) spec).Movable b →
      (dated (.stamp s) spec).isEligible? b = some (decide (s.instant - b.utcOffset ≤ b.instant.instant)) := by
    intro b hb
    rw [isEligible?_eq, if_pos hb]
    rfl
  refine ⟨⟨hanswer c hc, ?_⟩, ?_, isEligible?_absolute_iff hc⟩
  · rw [hsame]
    exact hanswer d hd
  · have hreach : d.reach = c.instant.instant + d.utcOffset := by rw [hsame]; rfl
    rw [← hreach]
    exact isEligible?_congr_iff hc hd

end Policy

/-! ### Half an hour before the year 2030 -/

namespace NewYear

/-- The first midnight of 2030 in universal time. -/
def deadline : Stamp := .utc ⟨741077 * microsPerDay, by decide⟩

/-- Half an hour before it, on a host with the given local offset. -/
def clock (offset : Int) : Clock := ⟨.utc ⟨741077 * microsPerDay - 1800 * 1000000, by decide⟩, offset⟩

def policy : Policy := .dated (.stamp deadline) { dir := "0700", file := "0700" }

end NewYear

/-- In universal time and an hour ahead of it: one instant, one deadline after it, and two answers. -/
theorem Policy.moved_by_local_offset_new_year :
    NewYear.policy.isEligible? (NewYear.clock 0) ≠ NewYear.policy.isEligible? (NewYear.clock (3600 * 1000000)) ∧
      NewYear.policy.isEligible? (NewYear.clock 0) = some (decide (NewYear.deadline.instant ≤ (NewYear.clock 0).instant.instant)) := by
  obtain ⟨-, hagree, halone⟩ := moved_by_local_offset NewYear.deadline { dir := "0700", file := "0700" }
    (c := NewYear.clock 0) (d := NewYear.clock (3600 * 1000000)) rfl (by decide) (by decide)
  refine ⟨fun heq => hagree.mp heq ?_, halone.mpr ?_⟩
  · unfold Parts
    decide
  · unfold Parts
    decide

/-- An hour ahead of universal time, the deadline has come half an hour before its instant. -/
theorem Policy.come_before_instant : ∃ (s : Stamp) (spec : ModeSpec) (c d : Clock), c.instant.instant = d.instant.instant ∧
    c.utcOffset ≠ d.utcOffset ∧ (dated (.stamp s) spec).Movable c ∧ (dated (.stamp s) spec).Movable d ∧
    ¬s.instant ≤ c.instant.instant ∧
    (dated (.stamp s) spec).isEligible? c = some false ∧ (dated (.stamp s) spec).isEligible? d = some true :=
  ⟨NewYear.deadline, { dir := "0700", file := "0700" }, NewYear.clock 0, NewYear.clock (3600 * 1000000), by decide⟩

end Curfew
