import Curfew.Proofs.Mode.Grants
import Curfew.Proofs.Mode.Grammar

/-! Running an expression on bits comes to its meaning on grants. Masks and permissions on bits match acting classes and
pending permissions, and each step of an action keeps the match. -/

namespace Curfew

/-! ### Acting classes -/

theorem Pending.holds_empty (c : Class) (q : Option Right) : Pending.empty.holds c q = false := by
  rcases q with _ | r <;> cases c <;> rfl

theorem Grants.holds_act (g : Grants) (acting : Finset Class) (operator : Operator) (p : Pending) (c : Class) (q : Option Right) :
    (g.act acting operator p).holds c q =
      if c ∈ acting then operator.onFlag (g.holds c q) (p.holds c q) else g.holds c q := by
  by_cases hc : c ∈ acting
  · cases q <;> cases operator <;> simp [act, holds, Pending.holds, Operator.onRights, Operator.onFlag, hc]
  · cases q <;> simp [act, holds, hc]

/-- A mask has all bits of the acting classes and no others. -/
def Acts (who : Mode) (acting : Finset Class) : Prop := ∀ c q, who.getLsbD (c.bit q) = decide (c ∈ acting)

theorem Who.getLsbD_mask : ∀ (w : Who) (c : Class) (q : Option Right), w.mask.getLsbD (c.bit q) = decide (w = .all ∨ w = .only c)
  | .all, c, q => by
    revert c q
    decide
  | .only c', c, q => by
    revert c' c q
    decide

theorem Who.getLsbD_joined (c : Class) (q : Option Right) (ws : List Who) : ∀ mask : Mode,
    (ws.foldl (fun mask w => mask ||| w.mask) mask).getLsbD (c.bit q) =
      (mask.getLsbD (c.bit q) || decide (.all ∈ ws ∨ .only c ∈ ws)) := by
  induction ws with
  | nil => intro mask; simp
  | cons w ws ih =>
    intro mask
    rw [List.foldl_cons, ih, BitVec.getLsbD_or, w.getLsbD_mask, Bool.or_assoc, ← Bool.decide_or]
    congr 2
    simp only [List.mem_cons, @eq_comm _ _ w, or_or_or_comm]

theorem acts_acting (who : List Who) : Acts (whoMask who) (acting who) := by
  intro c q
  unfold whoMask acting
  cases who with
  | nil =>
    rw [if_pos List.isEmpty_nil, ← Who.mask, Who.getLsbD_mask]
    simp
  | cons w ws =>
    rw [if_neg (by simp), Who.getLsbD_joined]
    simp

theorem acting_nonempty (who : List Who) : (acting who).Nonempty := by
  cases who with
  | nil => exact ⟨.owner, by simp [acting]⟩
  | cons w ws =>
    cases w with
    | all => exact ⟨.owner, by simp [acting]⟩
    | only c => exact ⟨c, by simp [acting]⟩

section
variable {who mode : Mode} {acting : Finset Class}

/-- Permissions on bits are those on grants, as far as the acting classes go. -/
theorem Mode.act_grants (hw : Acts who acting) {permissions : Mode} {p : Pending}
    (hp : ∀ c ∈ acting, ∀ q, permissions.getLsbD (c.bit q) = p.holds c q) (operator : Operator) :
    (mode.act who operator permissions).grants = mode.grants.act acting operator p :=
  Grants.eq_of_holds fun c q => by
    rw [holds_grants, getLsbD_act (c.bit_lt q), Grants.holds_act, holds_grants, hw]
    by_cases hc : c ∈ acting
    · simp only [hc, decide_true, if_true, hp c hc q]
    · simp only [hc, decide_false, if_false, Bool.false_eq_true]

theorem Mode.mem_rights_grants {mode : Mode} {c : Class} {r : Right} :
    r ∈ mode.grants.rights c ↔ mode.getLsbD (c.bit (some r)) = true := by
  rw [← holds_grants, Grants.holds, decide_eq_true_eq]

theorem Mode.getLsbD_anyExecute : ∀ (c : Class) (q : Option Right), anyExecute.getLsbD (c.bit q) = decide (q = some .execute) := by
  decide

theorem Mode.isSearchable_iff (isDirectory : Bool) :
    mode.isSearchable isDirectory = true ↔ isDirectory = true ∨ ∃ c, .execute ∈ mode.grants.rights c := by
  have hsome : mode &&& anyExecute ≠ 0 ↔ ∃ c : Class, mode.getLsbD (c.bit (some .execute)) = true := by
    rw [← not_iff_not, not_not, not_exists]
    constructor
    · intro h c hc
      have hbit := congrArg (BitVec.getLsbD · (c.bit (some .execute))) h
      simp [BitVec.getLsbD_and, getLsbD_anyExecute, hc] at hbit
    · intro h
      refine eq_of_bits fun c q => ?_
      rw [BitVec.getLsbD_and, getLsbD_anyExecute]
      by_cases hq : q = some .execute
      · subst hq
        simpa using h c
      · simp [hq]
  rw [isSearchable, Bool.or_eq_true, bne_iff_ne, hsome]
  simp only [mem_rights_grants]

/-- The lowest places of the acting classes. -/
def places (acting : Finset Class) : Mode :=
  (if .owner ∈ acting then 0o100 else 0) ||| (if .group ∈ acting then 0o010 else 0) ||| (if .others ∈ acting then 0o001 else 0)

theorem places_eq (hw : Acts who acting) : who &&& Mode.anyExecute = places acting := by
  have hplaces : ∀ (acting : Finset Class) (c : Class) (q : Option Right),
      (decide (c ∈ acting) && decide (q = some .execute)) = (places acting).getLsbD (c.bit q) := by decide
  exact Mode.eq_of_bits fun c q => by rw [BitVec.getLsbD_and, hw, Mode.getLsbD_anyExecute, hplaces]

/-- Three bits times such places have the three bits at each place. -/
theorem getLsbD_mul_places : ∀ (pattern : Fin 8) (acting : Finset Class) (c : Class),
    (∀ r : Right, (BitVec.ofNat 12 pattern * places acting).getLsbD (c.bit (some r)) =
      (decide (c ∈ acting) && pattern.val.testBit r.place)) ∧
    (BitVec.ofNat 12 pattern * places acting).getLsbD (c.bit none) = false := by
  decide

theorem Mode.lt_eight {m : Mode} (h : ∀ k < 12, 3 ≤ k → m.getLsbD k = false) : m.toNat < 8 := by
  have hseven : ∀ k < 12, (7 : Mode).getLsbD k = decide (k < 3) := by decide
  have hsmall : m = m &&& 7 := BitVec.eq_of_getLsbD_eq fun k hk => by
    rw [BitVec.getLsbD_and, hseven k hk]
    by_cases hlow : k < 3
    · simp [hlow]
    · simp [h k hk (Nat.le_of_not_lt hlow)]
  rw [hsmall, BitVec.toNat_and]
  exact Nat.lt_succ_of_le Nat.and_le_right

/-- The rights of a class, brought to the lowest three bits. -/
theorem exists_pattern (mode : Mode) (source : Class) : ∃ pattern : Fin 8,
    (mode &&& (source.mask &&& 0o777)) / (source.mask &&& 0o777 &&& Mode.anyExecute) = BitVec.ofNat 12 pattern ∧
      ∀ r : Right, pattern.val.testBit r.place = mode.getLsbD (source.bit (some r)) := by
  have hlow : ∀ source : Class, source.place < 12 ∧ source.mask &&& 0o777 &&& Mode.anyExecute = BitVec.twoPow 12 source.place := by
    decide
  have hmask : ∀ source : Class, ∀ k < 12, (source.mask &&& 0o777).getLsbD (source.place + k) = decide (k < 3) := by decide
  have hplace : ∀ r : Right, r.place < 12 ∧ r.place < 3 := by decide
  -- Dividing by the lowest bit of the class shifts its bits down.
  rw [(hlow source).2, BitVec.udiv_twoPow_eq_of_lt (hlow source).1]
  have hbits : ∀ k < 12, ((mode &&& (source.mask &&& 0o777)) >>> source.place).getLsbD k =
      (mode.getLsbD (source.place + k) && decide (k < 3)) := fun k hk => by
    rw [BitVec.getLsbD_ushiftRight, BitVec.getLsbD_and, hmask source k hk]
  have hlt := Mode.lt_eight fun k hk hhigh => by rw [hbits k hk, decide_eq_false (Nat.not_lt.mpr hhigh), Bool.and_false]
  refine ⟨⟨_, hlt⟩, ((BitVec.ofNat_toNat 12 _).trans (BitVec.setWidth_eq _)).symm, fun r => ?_⟩
  have hr := hbits r.place (hplace r).1
  rwa [decide_eq_true (hplace r).2, Bool.and_true] at hr

/-- What a class may do is spread over the rights of the acting classes, and over none of their flags. -/
theorem Mode.getLsbD_spread (hw : Acts who acting) (mode : Mode) (source c : Class) (q : Option Right) :
    (mode.spread who source).getLsbD (c.bit q) =
      (decide (c ∈ acting) && { Pending.empty with rights := mode.grants.rights source }.holds c q) := by
  obtain ⟨pattern, hpattern, hrights⟩ := exists_pattern mode source
  obtain ⟨hplain, hflag⟩ := getLsbD_mul_places pattern acting c
  have hspread : mode.spread who source = BitVec.ofNat 12 pattern * places acting := by
    rw [← hpattern, ← places_eq hw]
    rfl
  rw [hspread]
  cases q with
  | none =>
    rw [hflag]
    cases c <;> exact (Bool.and_false _).symm
  | some r =>
    rw [hplain, hrights, ← holds_grants]
    rfl

theorem Mode.spread_eq_zero (hw : Acts who acting) (hacting : acting.Nonempty) (source : Class) :
    mode.spread who source = 0 ↔ mode.grants.rights source = ∅ := by
  constructor
  · intro h
    obtain ⟨c, hc⟩ := hacting
    refine Finset.eq_empty_of_forall_notMem fun r hr => ?_
    have hbit := Mode.getLsbD_spread hw mode source c (some r)
    simp [h, hc, Pending.holds, hr] at hbit
  · intro h
    refine eq_of_bits fun c q => ?_
    rw [Mode.getLsbD_spread hw, h]
    exact (congrArg (decide (c ∈ acting) && ·) (Pending.holds_empty c q)).trans ((Bool.and_false _).trans BitVec.getLsbD_zero.symm)

end

/-! ### Actions -/

theorem Pending.holds_add (pending : Pending) (p : Permission) (c : Class) (q : Option Right) :
    (pending.add p).holds c q = (pending.holds c q || p.mask.getLsbD (c.bit q)) := by
  have hmask : ∀ (c : Class) (q : Option Right), p.mask.getLsbD (c.bit q) = (Pending.empty.add p).holds c q := by
    rcases p with _ | _ | _ | _ | _ | _ | (_ | _ | _) <;> decide
  rw [hmask]
  rcases q with _ | r
  · cases p <;> cases c <;> simp [add, holds, special, Pending.empty]
  · show decide (r ∈ (pending.add p).rights) = (decide (r ∈ pending.rights) || decide (r ∈ (Pending.empty.add p).rights))
    rw [← Bool.decide_or, decide_eq_decide]
    cases p <;> simp [add, Pending.empty, or_comm]

theorem Pending.add_eq_empty {pending : Pending} {p : Permission} : pending.add p = .empty ↔ pending = .empty ∧ p.mask = 0 := by
  cases p <;> simp [add, Pending.empty, Permission.mask]

theorem Mode.act_zero {operator : Operator} (hoperator : operator ≠ .assign) (mode who : Mode) : mode.act who operator 0 = mode :=
  eq_of_bits fun c q => by
    rw [getLsbD_act (c.bit_lt q)]
    cases operator with
    | assign => exact absurd rfl hoperator
    | _ => simp [Operator.onFlag]

theorem Mode.act_assign_twice (mode who permissions : Mode) :
    (mode.act who .assign permissions).act who .assign permissions = mode.act who .assign permissions :=
  eq_of_bits fun c q => by
    rw [getLsbD_act (c.bit_lt q), getLsbD_act (c.bit_lt q)]
    split <;> rfl

section
variable {isDirectory : Bool} {who : Mode} {acting : Finset Class} {operator : Operator} {g : Gathering} {s : Grants × Pending}

/-- A gathering on bits comes to grants with pending permissions. Where an assignment is not due any more and nothing is
gathered, the acting classes were left with nothing. -/
structure Mirrors (who : Mode) (acting : Finset Class) (operator : Operator) (g : Gathering) (s : Grants × Pending) : Prop where
  mode : g.mode.grants = s.1
  permissions : ∀ c ∈ acting, ∀ q, g.permissions.getLsbD (c.bit q) = s.2.holds c q
  empty : g.permissions = 0 ↔ s.2 = .empty
  settled : operator = .assign → g.due = false → g.permissions = 0 → g.mode.act who .assign 0 = g.mode

namespace Mirrors

theorem nothing {mode : Mode} {due : Bool} (hdue : operator = .assign → due = true) :
    Mirrors who acting operator { mode, permissions := 0, due } (mode.grants, .empty) where
  mode := rfl
  permissions c _ q := BitVec.getLsbD_zero.trans (Pending.holds_empty c q).symm
  empty := by simp
  settled hassign hsettled := by simp [hdue hassign] at hsettled

theorem add (h : Mirrors who acting operator g s) (p : Permission) :
    Mirrors who acting operator { g with permissions := g.permissions ||| p.mask } (s.1, s.2.add p) where
  mode := h.mode
  permissions c hc q := by rw [BitVec.getLsbD_or, h.permissions c hc q, Pending.holds_add]
  empty := by
    show g.permissions ||| p.mask = 0 ↔ s.2.add p = .empty
    rw [Pending.add_eq_empty, ← h.empty]
    exact BitVec.or_eq_zero_iff
  settled hassign hdue hzero := h.settled hassign hdue (BitVec.or_eq_zero_iff.mp hzero).1

theorem copy (hw : Acts who acting) (hacting : acting.Nonempty) (h : Mirrors who acting operator g s) (source : Class) :
    Mirrors who acting operator (g.step isDirectory who operator (.copy source))
      (Grants.gather isDirectory acting operator s (.copy source)) := by
  have happlied : (if g.permissions = 0 then g.mode else g.mode.act who operator g.permissions).grants =
      if s.2 = .empty then s.1 else s.1.act acting operator s.2 := by
    by_cases hzero : g.permissions = 0
    · rw [if_pos hzero, if_pos (h.empty.mp hzero), h.mode]
    · rw [if_neg hzero, if_neg (hzero ∘ h.empty.mpr), Mode.act_grants hw h.permissions, h.mode]
  unfold Gathering.step Grants.gather
  dsimp only
  rw [← happlied]
  generalize (if g.permissions = 0 then g.mode else g.mode.act who operator g.permissions) = mode
  have hspread := Mode.getLsbD_spread hw mode source
  have hacted : ∀ c ∈ acting, ∀ q, (mode.spread who source).getLsbD (c.bit q) =
      { Pending.empty with rights := mode.grants.rights source }.holds c q := fun c hc q => by
    rw [hspread, decide_eq_true hc, Bool.true_and]
  have hcopied : (mode.act who .assign (mode.spread who source)).grants =
      mode.grants.act acting .assign { Pending.empty with rights := mode.grants.rights source } := Mode.act_grants hw hacted .assign
  by_cases hassign : operator = .assign
  · rw [if_pos hassign, if_pos hassign]
    refine ⟨hcopied, hacted, ?_, fun _ _ hzero => ?_⟩
    · show mode.spread who source = 0 ↔ { Pending.empty with rights := mode.grants.rights source } = Pending.empty
      rw [Mode.spread_eq_zero hw hacting, Pending.mk.injEq]
      exact ⟨fun h => ⟨h, rfl, rfl⟩, And.left⟩
    · show (mode.act who .assign (mode.spread who source)).act who .assign 0 = mode.act who .assign (mode.spread who source)
      rw [show mode.spread who source = 0 from hzero, Mode.act_assign_twice]
  · rw [if_neg hassign, if_neg hassign, ← hcopied]
    exact nothing (absurd · hassign)

theorem step (hw : Acts who acting) (hacting : acting.Nonempty) (h : Mirrors who acting operator g s) (p : Permission) :
    Mirrors who acting operator (g.step isDirectory who operator p) (Grants.gather isDirectory acting operator s p) := by
  cases p with
  | copy source => exact h.copy hw hacting source
  | search =>
    unfold Gathering.step Grants.gather
    by_cases hsearch : isDirectory = true ∨ ∃ c, .execute ∈ s.1.rights c
    · rw [if_pos hsearch, if_pos ((Mode.isSearchable_iff isDirectory).mpr (h.mode ▸ hsearch))]
      exact h.add .execute
    · rw [if_neg hsearch, if_neg (hsearch ∘ fun hg => h.mode ▸ (Mode.isSearchable_iff isDirectory).mp hg)]
      exact h
  | _ => exact h.add _

theorem run (hw : Acts who acting) (hacting : acting.Nonempty) (ps : List Permission) :
    ∀ {g : Gathering} {s : Grants × Pending}, Mirrors who acting operator g s →
      Mirrors who acting operator (ps.foldl (Gathering.step isDirectory who operator) g)
        (ps.foldl (Grants.gather isDirectory acting operator) s) := by
  induction ps with
  | nil => exact id
  | cons p ps ih => exact fun h => ih (h.step hw hacting p)

/-- What is left at the end is applied, or would change nothing. -/
theorem finish (hw : Acts who acting) (h : Mirrors who acting operator g s) :
    (g.finish who operator).grants = s.1.act acting operator s.2 := by
  have hfinish : g.finish who operator = g.mode.act who operator g.permissions := by
    unfold Gathering.finish
    split
    · rfl
    · rename_i hdone
      obtain ⟨hzero, hdue⟩ : g.permissions = 0 ∧ g.due = false := by simpa using hdone
      cases operator with
      | assign => rw [hzero, h.settled rfl hdue hzero]
      | _ => rw [hzero, Mode.act_zero (by decide)]
  rw [hfinish, Mode.act_grants hw h.permissions, h.mode]

end Mirrors
end

theorem Action.run_grants {who : Mode} {acting : Finset Class} (hw : Acts who acting) (hacting : acting.Nonempty)
    (isDirectory : Bool) (mode : Mode) (a : Action) :
    (a.run isDirectory who mode).grants = a.means isDirectory acting mode.grants := by
  have hstart : Mirrors who acting a.operator { mode, permissions := 0, due := a.operator = .assign } (mode.grants, .empty) :=
    .nothing fun hassign => by simp [hassign]
  exact (hstart.run hw hacting a.permissions).finish hw

/-! ### Expressions -/

/-- Where each step on modes comes to one on grants, so do all of them. -/
theorem Mode.foldl_grants {α : Type} {f : Mode → α → Mode} {f' : Grants → α → Grants}
    (h : ∀ mode a, (f mode a).grants = f' mode.grants a) (as : List α) :
    ∀ mode : Mode, (as.foldl f mode).grants = as.foldl f' mode.grants := by
  induction as with
  | nil => exact fun mode => rfl
  | cons a as ih => exact fun mode => (ih (f mode a)).trans (by rw [h, List.foldl_cons])

theorem Clause.run_grants (isDirectory : Bool) (mode : Mode) (c : Clause) :
    (c.run isDirectory mode).grants = c.means isDirectory mode.grants :=
  Mode.foldl_grants (Action.run_grants (acts_acting c.who) (acting_nonempty c.who) isDirectory) c.actions mode

theorem Expression.run_grants (isDirectory : Bool) (mode : Mode) (e : Expression) :
    (e.run isDirectory mode).grants = e.means isDirectory mode.grants := by
  cases e with
  | octal result => rfl
  | symbolic clauses => exact Mode.foldl_grants (Clause.run_grants isDirectory) clauses mode

theorem Mode.ofInt_emod (i : Int) : ofInt (i % 0o10000) = ofInt i := by
  rw [ofInt, ofInt, ← BitVec.toInt_inj, BitVec.toInt_ofInt, BitVec.toInt_ofInt]
  exact Int.emod_bmod i 4096

/-- A text that compiles spells one expression, and the mode that it compiles to for a number of any size and sign is the
one with the grants that this expression means. Only the number's remainder by 10000 octal counts. -/
theorem Mode.compile_means {text : String} {current : Int} {isDirectory : Bool} {m : Mode}
    (h : compile text (ofInt current) isDirectory = .ok m) :
    (∃ e : Expression, e.Spells (Text.trim text.toList) ∧ (∀ e' : Expression, e'.Spells (Text.trim text.toList) → e' = e) ∧
        m.grants = e.means isDirectory (.ofInt current) ∧
        ∀ n : Mode, n.grants = e.means isDirectory (.ofInt current) → n = m) ∧
      m.toNat ≤ 0o7777 ∧
      ∀ other : Int, other % 0o10000 = current % 0o10000 → compile text (ofInt other) isDirectory = .ok m := by
  obtain ⟨e, he, rfl⟩ := compile_eq_ok.mp h
  have hmeans : (e.run isDirectory (ofInt current)).grants = e.means isDirectory (.ofInt current) := by
    rw [Expression.run_grants, grants_ofInt]
  refine ⟨⟨e, read_eq_ok.mp he, fun e' he' => ?_, hmeans, fun n hn => grants_injective (hn.trans hmeans.symm)⟩, ?_,
    fun other hother => ?_⟩
  · exact Except.ok.inj ((read_eq_ok.mpr he').symm.trans he)
  · exact Nat.le_of_lt_succ (BitVec.isLt _)
  · rw [← ofInt_emod, hother, ofInt_emod]
    exact h

theorem Mode.compile_means_copied : compile " g+su-w,o=g " (ofInt (-0o100)) true = .ok 0o4755 ∧
    (∃ e : Expression, e.Spells (Text.trim " g+su-w,o=g ".toList) ∧
        (∀ e' : Expression, e'.Spells (Text.trim " g+su-w,o=g ".toList) → e' = e) ∧
        grants 0o4755 = e.means true (.ofInt (-0o100)) ∧ ∀ n : Mode, n.grants = e.means true (.ofInt (-0o100)) → n = 0o4755) ∧
      (0o4755 : Mode).toNat ≤ 0o7777 ∧
      ∀ other : Int, other % 0o10000 = -0o100 % 0o10000 → compile " g+su-w,o=g " (ofInt other) true = .ok 0o4755 := by
  have h : compile " g+su-w,o=g " (ofInt (-0o100)) true = .ok 0o4755 := by decide
  exact ⟨h, compile_means h⟩

end Curfew
