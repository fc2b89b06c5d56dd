import Curfew.Proofs.Host.Aliases
import Curfew.Proofs.Tree.Runs

/-! Runs over nodes whose paths lead to the same places. Node by node both see the same, want the same and set the same, so
they stop at the same node and leave the same host. -/

namespace Curfew

namespace Host
variable {h h' : Host} {p q : Path} {follow : Bool}

theorem SameShape.agree (same : h.SameShape h') (ha : h.Agree follow p q) : h'.Agree follow p q := by
  unfold Agree
  rw [same.resolve, same.resolve]
  exact ha

/-! ### Seeing and setting -/

namespace Agree

theorem stat (ha : h.Agree false p q) : Beside DiskFault.Alike Eq (h.stat p) (h.stat q) := by
  refine asUnavailable_beside (ha.look.map fun found _ heq => ?_)
  rw [heq]

theorem chgrp (ha : h.Agree false p q) (gid : Int) : Beside DiskFault.Alike Eq (h.chgrp p gid) (h.chgrp q gid) := by
  refine asUnavailable_beside ?_
  unfold setGroup
  cases wantedGroup gid with
  | error fault => exact .error (.same fault)
  | ok wanted =>
    refine ha.look.bind ?_
    rintro ⟨l, e⟩ _ rfl
    simp only
    split
    · exact .ok rfl
    · exact .error (.system _ p q)

theorem chmod (ha : ∀ follow, h.Agree follow p q) (mode : Mode) :
    Beside DiskFault.Alike Eq (h.chmod p mode).outcome (h.chmod q mode).outcome := by
  unfold Host.chmod
  simp only [Told.outcome_bind, Told.outcome_ofExcept]
  refine ((ha false).test isLinkEntry).bind ?_
  rintro b _ rfl
  cases b with
  | true => exact .ok rfl
  | false =>
    refine asUnavailable_beside ((ha true).look.bind ?_)
    rintro found _ rfl
    exact .ok rfl

end Agree

end Host

/-! ### One node -/

/-- Two nodes lead to one place, and the same holds at both. -/
structure Standing.Twin (h : Host) (s s' : Standing) : Prop where
  agree : ∀ follow, h.Agree follow s.path s'.path
  group : s.group = s'.group
  policies : s.policies = s'.policies
  excluded : s.isExcluded = s'.isExcluded

namespace Standing.Twin
variable {h h' : Host} {s s' : Standing} {clock : Clock} {isDryRun : Bool}

theorem of_sameShape (ht : Twin h s s') (same : h.SameShape h') : Twin h' s s' :=
  { ht with agree := fun follow => same.agree (ht.agree follow) }

theorem wantedMode (ht : Twin h s s') (clock : Clock) (i : EntryInfo) : s.wantedMode clock i = s'.wantedMode clock i := by
  unfold Standing.wantedMode resolve
  rw [ht.policies, ht.excluded]

theorem wantedGid (ht : Twin h s s') (i : EntryInfo) : h.wantedGid s i = h.wantedGid s' i := by
  unfold Host.wantedGid
  rw [ht.group]

theorem plan (ht : Twin h s s') (clock : Clock) : Beside (fun _ _ => True) Eq (h.plan clock s) (h.plan clock s') := by
  unfold Host.plan
  rcases (ht.agree false).stat.inv with ⟨old, _, hs, hs', rfl⟩ | ⟨_, _, hs, hs', -⟩
  · simp only [hs, hs', ht.wantedMode, ht.wantedGid]
    cases s'.wantedMode clock old with
    | error => exact .error trivial
    | ok mode =>
      cases h.wantedGid s' old with
      | error => exact .error trivial
      | ok gid => exact .ok rfl
  · simp only [hs, hs']
    exact .error trivial

theorem write (ht : Twin h s s') (p : Plan) : Beside DiskFault.Alike Eq (p.write s.path h) (p.write s'.path h) := by
  have hgroup : Beside DiskFault.Alike (fun x y => x = y ∧ h.SameShape x) (p.setGroup s.path h) (p.setGroup s'.path h) := by
    unfold Plan.setGroup
    split
    · exact .ok ⟨rfl, .refl h⟩
    · rcases ((ht.agree false).chgrp p.gid).inv with ⟨h₁, _, hc, hc', rfl⟩ | ⟨_, _, hc, hc', hf⟩ <;> rw [hc, hc']
      · obtain ⟨l, e, hlook, rfl⟩ := Host.chgrp_inv hc
        exact .ok ⟨rfl, (Host.sets_changeAt (.chgrp _) (Host.look_eq_ok.mp hlook).2).toSameShape⟩
      · exact .error hf
  refine hgroup.bind ?_
  rintro h₁ _ ⟨rfl, same⟩
  unfold Plan.setMode
  split
  · exact .ok rfl
  · exact Host.Agree.chmod (fun follow => same.agree (ht.agree follow)) p.mode

theorem handle (ht : Twin h s s') (clock : Clock) (isDryRun : Bool) :
    Beside (fun _ _ => True) (fun r r' => r.1 = r'.1) (h.handle clock isDryRun s) (h.handle clock isDryRun s') := by
  unfold Host.handle
  rcases (ht.plan clock).inv with ⟨p, _, hp, hp', rfl⟩ | ⟨_, _, hp, hp', -⟩ <;> simp only [hp, hp']
  · unfold Host.perform Plan.change?
    by_cases hsame : p.mode = p.old.mode ∧ p.gid = p.old.gid
    · simp only [if_pos hsame]
      exact .ok rfl
    · simp only [if_neg hsame]
      cases isDryRun with
      | true => exact .ok rfl
      | false =>
        rcases (ht.write p).inv with ⟨h₁, _, hw, hw', rfl⟩ | ⟨_, _, hw, hw', -⟩ <;> rw [hw, hw']
        · exact .ok rfl
        · exact .error trivial
  · exact .error trivial

end Standing.Twin

namespace Tree
variable {h : Host}

namespace Progress
variable {ss ss' : List Standing} {clock : Clock}

theorem steps_twin (hall : List.Forall₂ (Standing.Twin h) ss ss') : ∀ x x' : Progress, x.host = x'.host →
    h.SameShape x.host → x.report.isDryRun = x'.report.isDryRun →
    (steps clock ss x).1.isNone = (steps clock ss' x').1.isNone ∧ (steps clock ss x).2.host = (steps clock ss' x').2.host := by
  induction hall with
  | nil => exact fun x x' hhost _ _ => ⟨rfl, hhost⟩
  | cons ht _ ih =>
    rintro ⟨host, report⟩ ⟨_, report'⟩ rfl same hdry
    rw [steps_cons, steps_cons]
    unfold step
    simp only at hdry ⊢
    rw [← hdry]
    rcases ((ht.of_sameShape same).handle clock report.isDryRun).inv with
      ⟨⟨h₁, c⟩, ⟨_, c'⟩, hh, hh', rfl⟩ | ⟨_, _, hh, hh', -⟩ <;> simp only [hh, hh']
    · obtain ⟨_, _, -, -, -, hsets⟩ := Host.handle_inv hh
      exact ih _ _ rfl (same.trans hsets.toSameShape) hdry
    · exact ⟨rfl, rfl⟩

end Progress

/-- Trees whose nodes below the root are twins are applied alike. -/
theorem apply_twin {t t' : Tree} (hall : List.Forall₂ (Standing.Twin h) t.managed t'.managed) (clock : Clock)
    (isDryRun : Bool) : (t.apply h clock isDryRun).fault.isNone = (t'.apply h clock isDryRun).fault.isNone ∧
      (t.apply h clock isDryRun).run.host = (t'.apply h clock isDryRun).run.host := by
  rw [(apply_eq t h clock isDryRun).1, (apply_eq t' h clock isDryRun).1, apply_host, apply_host]
  exact Progress.steps_twin hall _ _ rfl (.refl h) rfl

end Tree

end Curfew
