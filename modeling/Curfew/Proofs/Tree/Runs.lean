import Curfew.Proofs.Tree.Steps
import Mathlib.Data.List.Basic

/-! What a run does to the disk. A step changes what is seen at the location of its own node and nowhere else,
and no step changes where paths lead; so nodes that lead to locations of their own are handled as if each were
the only one. -/

namespace Curfew

/-! ### Plans on hosts of one shape -/

namespace Host
variable {h h' : Host} {l : Location}

theorem SameShape.stat (s : SameShape h h') {path : Path}
    (hsame : ∀ l, h.locate path false = .ok l → h'.disk.infoAt l = h.disk.infoAt l) : h'.stat path = h.stat path := by
  unfold Host.stat look
  rw [s.locate]
  cases hl : h.locate path false with
  | error fault => rfl
  | ok l =>
    have hinfo := hsame l hl
    simp only [Entry.infoAt] at hinfo
    simp only [bind, Except.bind]
    cases he : h.disk.get? l with
    | none =>
      simp only [he, Option.map_none, Option.map_eq_none_iff] at hinfo
      rw [hinfo]
    | some e =>
      simp only [he, Option.map_some, Option.map_eq_some_iff] at hinfo
      obtain ⟨e', he', hi⟩ := hinfo
      rw [he']
      exact congrArg (fun i => asUnavailable path (.ok i)) hi

/-- A plan reads no more of the disk than what is seen at the location of its node. -/
theorem SameShape.plan (s : SameShape h h') (clock : Clock) {node : Standing}
    (hsame : ∀ l, h.locate node.path false = .ok l → h'.disk.infoAt l = h.disk.infoAt l) :
    h'.plan clock node = h.plan clock node := by
  have hgroup : h'.groupId = h.groupId := by
    rw [s.rest]
    rfl
  unfold Host.plan wantedGid
  rw [s.stat hsame, hgroup]

/-- The change that is reported of a node. -/
def change? (h : Host) (clock : Clock) (isDryRun : Bool) (s : Standing) : Option Change :=
  (h.plan clock s).toOption.bind fun p => p.change? s isDryRun

/-- A node that is handled is brought to what its plan leaves, unless the run is dry. -/
theorem handle_inv {clock : Clock} {isDryRun : Bool} {s : Standing} {c : Option Change}
    (hh : h.handle clock isDryRun s = .ok (h', c)) :
    ∃ p l, h.plan clock s = .ok p ∧ h.locate s.path false = .ok l ∧ c = h.change? clock isDryRun s ∧
      Sets h h' l (if isDryRun then p.old else p.left) := by
  unfold handle at hh
  cases hp : h.plan clock s with
  | error fault => simp [hp] at hh
  | ok p =>
    obtain ⟨l, hl, hi⟩ := stat_eq_ok.mp (plan_eq_ok.mp hp).1
    have hc : h.change? clock isDryRun s = p.change? s isDryRun := by
      unfold change?
      rw [hp]
      rfl
    refine ⟨p, l, rfl, hl, ?_⟩
    simp only [hp, perform] at hh
    rw [hc]
    cases hpc : p.change? s isDryRun with
    | none =>
      rw [hpc] at hh
      cases hh
      refine ⟨rfl, ?_⟩
      rw [Plan.left_of_change?_eq_none hpc, ite_self]
      exact .refl hi
    | some change =>
      simp only [hpc] at hh
      cases isDryRun with
      | true =>
        cases hh
        exact ⟨rfl, .refl hi⟩
      | false =>
        simp only [Bool.false_eq_true, ↓reduceIte] at hh ⊢
        cases hw : p.write s.path h with
        | error fault => simp [hw] at hh
        | ok h₁ =>
          simp only [hw] at hh
          cases hh
          exact ⟨rfl, p.write_sets hl hi (plan_link hp) hw⟩

/-- What is seen of an entry changes with a change that is reported of its node. -/
theorem exists_change? {clock : Clock} {isDryRun : Bool} {s : Standing} {p : Plan} (hp : h.plan clock s = .ok p)
    (hl : h.locate s.path false = .ok l) (hsets : Sets h h' l (if isDryRun then p.old else p.left))
    (hchanged : h'.disk.infoAt l ≠ h.disk.infoAt l) : ∃ c, h.change? clock isDryRun s = some c ∧ c.path = s.path := by
  have hc : h.change? clock isDryRun s = p.change? s isDryRun := by
    unfold change?
    rw [hp]
    rfl
  rw [hc]
  cases hpc : p.change? s isDryRun with
  | some c => exact ⟨c, rfl, Plan.path_of_change? hpc⟩
  | none =>
    have hi := infoAt_of_plan hp hl
    rw [hsets.infoAt, if_pos rfl, Plan.left_of_change?_eq_none hpc, ite_self, hi] at hchanged
    exact absurd rfl hchanged

theorem handle_of_granted {clock : Clock} {s : Standing} {p : Plan} (hp : h.plan clock s = .ok p) (hg : p.Granted h)
    (isDryRun : Bool) : ∃ r, h.handle clock isDryRun s = .ok r := by
  obtain ⟨l, hl, hi⟩ := stat_eq_ok.mp (plan_eq_ok.mp hp).1
  obtain ⟨h', hw⟩ := p.write_of_granted hl hi (plan_link hp) hg
  unfold handle perform
  rw [hp]
  simp only [hw]
  split
  · exact ⟨_, rfl⟩
  · split <;> exact ⟨_, rfl⟩

end Host

namespace Tree

namespace Progress
variable {clock : Clock} {s : Standing} {ss : List Standing}

/-! ### One step -/

/-- What a run does apart from what it says: it keeps the shape of the disk and what is seen at other locations than
those that the paths of its nodes lead to. -/
structure Frame (ss : List Standing) (h h' : Host) : Prop extends h.SameShape h' where
  infoAt : ∀ l, (∀ s ∈ ss, h.locate s.path false ≠ .ok l) → h'.disk.infoAt l = h.disk.infoAt l

theorem step_ok {x x' : Progress} (hx : x.step clock s = (none, x')) :
    ∃ p l, x.host.plan clock s = .ok p ∧ x.host.locate s.path false = .ok l ∧
      x.host.Sets x'.host l (if x.report.isDryRun then p.old else p.left) ∧
      x' = x.visit x'.host (x.host.change? clock x.report.isDryRun s) := by
  unfold step at hx
  split at hx
  · cases hx
  · rename_i h' c hh
    cases hx
    obtain ⟨p, l, hp, hl, hc, hsets⟩ := Host.handle_inv hh
    exact ⟨p, l, hp, hl, hsets, by rw [← hc]; rfl⟩

theorem step_fault {x x' : Progress} {fault : TreeFault} (hx : x.step clock s = (some fault, x')) :
    x.host.handle clock x.report.isDryRun s = .error fault ∧ x'.host = x.host := by
  unfold step at hx
  split at hx
  · rename_i hh
    cases hx
    exact ⟨hh, rfl⟩
  · cases hx

theorem step_frame (clock : Clock) (s : Standing) (x : Progress) : Frame [s] x.host (x.step clock s).2.host := by
  cases hx : x.step clock s with
  | mk fault x' =>
    cases fault with
    | none =>
      obtain ⟨p, l, -, hl, hsets, -⟩ := step_ok hx
      refine ⟨hsets.toSameShape, fun k hk => ?_⟩
      rw [hsets.infoAt, if_neg]
      rintro rfl
      exact hk s (List.mem_singleton_self s) hl
    | some fault =>
      obtain ⟨-, hhost⟩ := step_fault hx
      rw [hhost]
      exact ⟨.refl _, fun k hk => rfl⟩

/-! ### All steps -/

/-- What each step does to the host, a run does, if it is a matter that adds up. -/
theorem steps_related {R : Host → Host → Prop} (refl : ∀ h, R h h) (trans : ∀ {h h' h''}, R h h' → R h' h'' → R h h'')
    {ss : List Standing} (step : ∀ s ∈ ss, ∀ x : Progress, R x.host (x.step clock s).2.host) :
    ∀ x : Progress, R x.host (steps clock ss x).2.host := by
  induction ss with
  | nil => exact fun x => refl x.host
  | cons s ss ih =>
    intro x
    obtain ⟨hs, hss⟩ := List.forall_mem_cons.mp step
    have first := hs x
    rw [steps_cons]
    cases hx : x.step clock s with
    | mk fault x' =>
      rw [hx] at first
      cases fault with
      | some fault => exact first
      | none => exact trans first (ih hss x')

theorem steps_frame (ss : List Standing) : ∀ x : Progress, Frame ss x.host (steps clock ss x).2.host := by
  refine steps_related (fun h => ⟨.refl h, fun l _ => rfl⟩) ?_ fun s hs x => ?_
  · intro h h' h'' first rest
    refine ⟨first.toSameShape.trans rest.toSameShape, fun l hl => ?_⟩
    rw [rest.infoAt l fun s hs => ?_, first.infoAt l hl]
    rw [first.locate]
    exact hl s hs
  · have one := step_frame clock s x
    exact ⟨one.toSameShape, fun l hl => one.infoAt l fun s' hs' => hl s' (List.mem_singleton.mp hs' ▸ hs)⟩

/-- The paths of nodes lead to locations of their own. -/
def Apart (h : Host) (ss : List Standing) : Prop :=
  ss.Pairwise fun s s' => ∀ l, h.locate s.path false = .ok l → h.locate s'.path false ≠ .ok l

instance (h : Host) (ss : List Standing) : Decidable (Apart h ss) :=
  have : DecidableRel fun s s' : Standing =>
      ∀ l, h.locate s.path false = .ok l → h.locate s'.path false ≠ .ok l := fun s s' =>
    match hl : h.locate s.path false with
    | .error _ => .isTrue fun l hl' => by cases hl.symm.trans hl'
    | .ok l => decidable_of_iff ((h.locate s'.path false).toOption ≠ some l) (by
        simp only [hl, Except.ok.injEq, forall_eq']
        cases h.locate s'.path false <;> simp [Except.toOption])
  inferInstanceAs (Decidable (ss.Pairwise _))

/-- A run without a fault over nodes with locations of their own brings each to what its plan leaves, and reports
the changes of all in their order. -/
theorem steps_ok (ss : List Standing) : ∀ x : Progress, Apart x.host ss → (steps clock ss x).1 = none →
    (∀ s ∈ ss, ∃ p l, x.host.plan clock s = .ok p ∧ x.host.locate s.path false = .ok l ∧
      (steps clock ss x).2.host.disk.infoAt l = some (if x.report.isDryRun then p.old else p.left)) ∧
    (steps clock ss x).2.report = { x.report with
      changes := x.report.changes ++ ss.filterMap (x.host.change? clock x.report.isDryRun)
      visited := x.report.visited + ss.length } := by
  induction ss with
  | nil => exact fun x _ _ => ⟨by simp, by simp [steps_nil]⟩
  | cons s ss ih =>
    intro x hapart hok
    obtain ⟨hfirst, hrest⟩ := List.pairwise_cons.mp hapart
    rw [steps_cons] at hok ⊢
    cases hx : x.step clock s with
    | mk fault x' =>
      cases fault with
      | some fault => simp [hx] at hok
      | none =>
        obtain ⟨p, l, hp, hl, hsets, hx'⟩ := step_ok hx
        simp only [hx] at hok
        -- The plans of the other nodes are as before the first step.
        have hplan : ∀ s' ∈ ss, x'.host.plan clock s' = x.host.plan clock s' := fun s' hs' =>
          hsets.plan clock fun k hk => by
            rw [hsets.infoAt, if_neg]
            rintro rfl
            exact hfirst s' hs' k hl hk
        have hdry : x'.report.isDryRun = x.report.isDryRun := by rw [hx']; rfl
        obtain ⟨hall, hreport⟩ := ih x' (hrest.imp fun hab k => by simpa only [hsets.locate] using hab k) hok
        constructor
        · intro s' hs'
          rcases List.mem_cons.mp hs' with rfl | hs'
          · refine ⟨p, l, hp, hl, ?_⟩
            rw [(steps_frame ss x').infoAt l fun s' hs' => ?_, hsets.infoAt, if_pos rfl]
            rw [hsets.locate]
            exact hfirst s' hs' l hl
          · obtain ⟨p', l', hp', hl', hinfo⟩ := hall s' hs'
            rw [hplan s' hs'] at hp'
            rw [hsets.locate] at hl'
            rw [hdry] at hinfo
            exact ⟨p', l', hp', hl', hinfo⟩
        · have hchange : ss.filterMap (x'.host.change? clock x.report.isDryRun) =
              ss.filterMap (x.host.change? clock x.report.isDryRun) :=
            List.filterMap_congr fun s' hs' => by simp only [Host.change?, hplan s' hs']
          rw [hreport, hdry, hchange, hx']
          simp only [visit, List.filterMap_cons, List.length_cons]
          cases x.host.change? clock x.report.isDryRun s with
          | none => simp; omega
          | some c => simp; omega

theorem mem_steps_changes {c : Change} (ss : List Standing) : ∀ x : Progress, c ∈ x.report.changes →
    c ∈ (steps clock ss x).2.report.changes := by
  induction ss with
  | nil => exact fun x hc => hc
  | cons s ss ih =>
    intro x hc
    have hstep : c ∈ (x.step clock s).2.report.changes := by
      unfold step
      split <;> simp [visit, hc]
    rw [steps_cons]
    cases hx : x.step clock s with
    | mk fault x' =>
      rw [hx] at hstep
      cases fault with
      | some fault => exact hstep
      | none => exact ih x' hstep

/-- What a run changes it reports, even if it is stopped later: a path of a change leads there. -/
theorem steps_recorded (ss : List Standing) : ∀ (x : Progress) (l : Location),
    (steps clock ss x).2.host.disk.infoAt l ≠ x.host.disk.infoAt l →
      ∃ c ∈ (steps clock ss x).2.report.changes, x.host.locate c.path false = .ok l := by
  induction ss with
  | nil => exact fun x l hl => absurd rfl hl
  | cons s ss ih =>
    intro x l hl
    rw [steps_cons] at hl ⊢
    cases hx : x.step clock s with
    | mk fault x' =>
      rw [hx] at hl
      cases fault with
      | some fault =>
        rw [(step_fault hx).2] at hl
        exact absurd rfl hl
      | none =>
        obtain ⟨p, k, hp, hk, hsets, hx'⟩ := step_ok hx
        by_cases hlater : (steps clock ss x').2.host.disk.infoAt l = x'.host.disk.infoAt l
        · -- The change was made by this step, which reports it.
          have hnow : x'.host.disk.infoAt l ≠ x.host.disk.infoAt l := fun heq => hl (hlater.trans heq)
          obtain rfl : l = k := by
            by_contra hne
            exact hnow (by rw [hsets.infoAt, if_neg hne])
          obtain ⟨c, hc, hpath⟩ := Host.exists_change? hp hk hsets hnow
          refine ⟨c, mem_steps_changes ss x' ?_, by rw [hpath]; exact hk⟩
          rw [hx']
          simp [visit, hc]
        · obtain ⟨c, hc, hlocate⟩ := ih x' l hlater
          exact ⟨c, hc, by rw [← hsets.locate]; exact hlocate⟩

/-- A run over nodes with locations of their own ends without a fault if each has a plan and may be given its group. -/
theorem steps_of_granted (ss : List Standing) : ∀ x : Progress, Apart x.host ss →
    (∀ s ∈ ss, ∃ p, x.host.plan clock s = .ok p ∧ p.Granted x.host) → (steps clock ss x).1 = none := by
  induction ss with
  | nil => exact fun x _ _ => rfl
  | cons s ss ih =>
    intro x hapart hall
    obtain ⟨hfirst, hrest⟩ := List.pairwise_cons.mp hapart
    rw [steps_cons]
    cases hx : x.step clock s with
    | mk fault x' =>
      cases fault with
      | some fault =>
        obtain ⟨p, hp, hg⟩ := hall s List.mem_cons_self
        obtain ⟨r, hr⟩ := Host.handle_of_granted hp hg x.report.isDryRun
        rw [(step_fault hx).1] at hr
        cases hr
      | none =>
        obtain ⟨p, l, -, hl, hsets, -⟩ := step_ok hx
        refine ih x' (hrest.imp fun hab k => by simpa only [hsets.locate] using hab k) fun s' hs' => ?_
        obtain ⟨p', hp', hg'⟩ := hall s' (List.mem_cons_of_mem _ hs')
        refine ⟨p', ?_, ?_⟩
        · rw [hsets.plan clock fun k hk => ?_, hp']
          rw [hsets.infoAt, if_neg]
          rintro rfl
          exact hfirst s' hs' k hl hk
        · have hcaller : x'.host.mayChangeGroup = x.host.mayChangeGroup := by
            rw [hsets.rest]
            rfl
          unfold Plan.Granted
          rw [hcaller]
          exact hg'

end Progress

/-! ### Whole runs -/

variable {t : Tree} {h : Host} {clock : Clock} {isDryRun : Bool}

theorem apply_host : (t.apply h clock isDryRun).run.host =
    (Progress.steps clock t.managed ⟨h, .empty isDryRun⟩).2.host := by
  have hrun := (apply_eq t h clock isDryRun).2
  change (t.apply h clock isDryRun).run.progress.host = _
  rw [hrun]
  rcases Progress.steps clock t.managed ⟨h, .empty isDryRun⟩ with ⟨_ | fault, x⟩ <;> rfl

/-- A run keeps the shape of the disk and all that no node leads to, be it stopped by a fault or not. -/
theorem apply_frame : Progress.Frame t.managed h (t.apply h clock isDryRun).run.host := by
  rw [apply_host]
  exact Progress.steps_frame t.managed ⟨h, .empty isDryRun⟩

/-- What a run changes it reports, be it stopped by a fault or not: a path of a change leads there. -/
theorem apply_recorded {l : Location} (hl : (t.apply h clock isDryRun).run.host.disk.infoAt l ≠ h.disk.infoAt l) :
    ∃ c ∈ (t.apply h clock isDryRun).run.report.changes, h.locate c.path false = .ok l := by
  rw [apply_host] at hl
  obtain ⟨c, hc, hlocate⟩ := Progress.steps_recorded t.managed ⟨h, .empty isDryRun⟩ l hl
  refine ⟨c, ?_, hlocate⟩
  have hrun := (apply_eq t h clock isDryRun).2
  change c ∈ (t.apply h clock isDryRun).run.progress.report.changes
  rw [hrun]
  rcases hx : Progress.steps clock t.managed ⟨h, .empty isDryRun⟩ with ⟨_ | fault, x⟩ <;> rw [hx] at hc
  · simpa [Progress.visit] using hc
  · exact hc

theorem apply_ok (hapart : Progress.Apart h t.managed) (hok : (t.apply h clock isDryRun).fault = none) :
    (∀ s ∈ t.managed, ∃ p l, h.plan clock s = .ok p ∧ h.locate s.path false = .ok l ∧
      (t.apply h clock isDryRun).run.host.disk.infoAt l = some (if isDryRun then p.old else p.left)) ∧
    (t.apply h clock isDryRun).run.report =
      { changes := t.managed.filterMap (h.change? clock isDryRun), visited := t.managed.length + 1, isDryRun } := by
  obtain ⟨hfault, hrun⟩ := apply_eq t h clock isDryRun
  rw [hfault] at hok
  obtain ⟨hall, hreport⟩ := Progress.steps_ok t.managed ⟨h, .empty isDryRun⟩ hapart hok
  refine ⟨by rw [apply_host]; exact hall, ?_⟩
  change (t.apply h clock isDryRun).run.progress.report = _
  rw [hrun]
  cases hx : Progress.steps clock t.managed ⟨h, .empty isDryRun⟩ with
  | mk fault x =>
    rw [hx] at hok hreport
    obtain rfl : fault = none := hok
    have hreport : x.report = _ := hreport
    simp [Progress.visit, hreport, Report.empty]

end Tree

end Curfew
