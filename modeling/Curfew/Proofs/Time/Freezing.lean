import Curfew.Policy

/-! Clocks frozen at a wall time, and policies by such clocks. The clock is behind the wall time by the local offset and
so is a policy's time when they are compared, so the offset does not bear on the comparison. -/

namespace Curfew

theorem WallTime.shift?_eq_some {w w' : WallTime} {micros : Int} (h : w.shift? micros = some w') :
    (w'.micros : Int) = w.micros + micros := by
  unfold shift? ofMicros? at h
  split at h
  · rename_i hin
    cases h
    exact Int.toNat_of_nonneg hin.1
  · cases h

namespace Clock

/-- A clock frozen at a wall time shows it, once the offset that the clock holds is added. -/
theorem freeze_wall_inv {zone : Offset} {n : WallTime} {c : Clock} (h : freeze zone (.wall n) = .ok c) :
    c.utcOffset = zone.micros ∧ c.instant.instant + c.utcOffset = n.micros := by
  unfold freeze localStamp? at h
  simp only [bind, Except.bind] at h
  split at h
  · cases h
  · rename_i stamp hstamp
    split at hstamp
    · cases hstamp
      split at h
      · cases h
      · rename_i universal hu
        split at h
        · cases h
        · cases h
          obtain ⟨w, hw, rfl⟩ := Option.map_eq_some_iff.mp hu
          refine ⟨rfl, ?_⟩
          have hshift := WallTime.shift?_eq_some hw
          simp only [Stamp.instant, Stamp.utc, Offset.utc, hshift]
          omega
    · cases hstamp

end Clock

namespace Policy

/-- The time of a policy, moved by the local offset of a clock, is still in the calendar. -/
def Movable (p : Policy) (clock : Clock) : Prop :=
  0 ≤ p.timestamp.wall.micros - clock.utcOffset ∧ p.timestamp.wall.micros - clock.utcOffset < Calendar.span

/-- The time of a policy, moved by the local offset of a clock, is not after the clock's instant. -/
def Due (p : Policy) (clock : Clock) : Prop := p.instant - clock.utcOffset ≤ clock.instant.instant

instance (p : Policy) (clock : Clock) : Decidable (p.Movable clock) := inferInstanceAs (Decidable (_ ∧ _))

instance (p : Policy) (clock : Clock) : Decidable (p.Due clock) := inferInstanceAs (Decidable (_ ≤ _))

theorem isEligible?_eq (p : Policy) (clock : Clock) :
    p.isEligible? clock = if p.Movable clock then some (decide (p.Due clock)) else none := by
  by_cases hin : p.Movable clock
  · rw [if_pos hin]
    unfold Movable at hin
    unfold isEligible? Stamp.shift? WallTime.shift? WallTime.ofMicros?
    simp only [← Int.sub_eq_add_neg]
    rw [dif_pos hin, Option.map_some, Option.map_some, Option.some.injEq, decide_eq_decide]
    simp only [Due, instant, Stamp.instant, Int.toNat_of_nonneg hin.1]
    omega
  · rw [if_neg hin]
    unfold Movable at hin
    unfold isEligible? Stamp.shift? WallTime.shift? WallTime.ofMicros?
    simp only [← Int.sub_eq_add_neg]
    rw [dif_neg hin]
    rfl

/-- By a clock frozen at a wall time, the policies whose instant is not after it as if it were universal time have had
their time. -/
theorem isEligible?_of_freeze {zone : Offset} {n : WallTime} {c : Clock} (h : Clock.freeze zone (.wall n) = .ok c) {p : Policy}
    (hp : (p.timestamp.shift? (-zone.micros)).isSome) : p.isEligible? c = some (decide (p.instant ≤ n.micros)) := by
  obtain ⟨hoffset, hinstant⟩ := Clock.freeze_wall_inv h
  obtain ⟨moved, hmoved⟩ := Option.isSome_iff_exists.mp hp
  obtain ⟨w, hw, rfl⟩ := Option.map_eq_some_iff.mp hmoved
  have hshift := WallTime.shift?_eq_some hw
  unfold isEligible?
  rw [hoffset, hmoved, Option.map_some]
  congr 1
  rw [decide_eq_decide]
  rw [hoffset] at hinstant
  simp only [instant, Stamp.instant, hshift] at hinstant ⊢
  omega

end Policy

/-- The wall time of a name without a zone: a day stands for its midnight. -/
def When.wall? : When → Option WallTime
  | .day d => some (.midnight d)
  | .wall w => some w
  | .stamp _ => none

theorem When.stampOf_of_wall? {date : When} {w : WallTime} (h : date.wall? = some w) : date.stampOf = .utc w := by
  cases date <;> cases h <;> rfl

theorem Policy.instant_dated {date : When} {w : WallTime} (h : date.wall? = some w) (spec : ModeSpec) :
    (dated date spec).instant = w.micros := by
  show date.stampOf.instant = w.micros
  rw [When.stampOf_of_wall? h]
  simp [Stamp.instant, Stamp.utc, Offset.utc]

end Curfew
