import Curfew.Proofs.Tree.Located

/-! Dry runs. A dry run leaves the disk as it is and reports what a run would change. A run does what was
predicted up to the first node whose group the caller may not set: no plan tells of that, since only the attempt to
set a group asks whether it may be set. -/

namespace Curfew

/-! ### Refusals -/

namespace Plan

/-- Why the group of the entry cannot be set, if it is to change and cannot. -/
def refusal? (p : Plan) (path : Path) (h : Host) : Option DiskFault :=
  if p.gid = p.old.gid then none
  else
    match Host.wantedGroup p.gid with
    | .error fault => some fault
    | .ok wanted => if h.mayChangeGroup p.old.gid wanted then none else some (.system .notPermitted path)

variable {p : Plan} {path : Path} {h h' : Host} {l : Location} {fault : DiskFault}

theorem refusal?_eq_none_iff : p.refusal? path h = none ↔ p.Granted h := by
  unfold refusal? Granted
  by_cases hg : p.gid = p.old.gid
  · simp [hg]
  · cases hw : Host.wantedGroup p.gid with
    | error fault => simp [hg]
    | ok wanted =>
      simp only [hg, ↓reduceIte, ite_eq_left_iff, reduceCtorEq, imp_false, Bool.not_eq_true, Bool.not_eq_false, false_or,
        Except.ok.injEq]
      constructor
      · exact fun hmay => ⟨wanted, rfl, hmay⟩
      · rintro ⟨_, rfl, hmay⟩
        exact hmay

/-- The group of an entry that is there fails to be set just if that is refused. -/
theorem setGroup_of_refusal? (hl : h.locate path false = .ok l) (hi : h.disk.infoAt l = some p.old)
    (hr : p.refusal? path h = some fault) : p.setGroup path h = .error fault := by
  obtain ⟨e, he, hinfo⟩ := Option.map_eq_some_iff.mp hi
  have hlook : h.look path false = .ok (l, e) := Host.look_eq_ok.mpr ⟨hl, he⟩
  unfold refusal? at hr
  unfold setGroup
  by_cases hg : p.gid = p.old.gid
  · simp [hg] at hr
  · rw [if_neg hg] at hr ⊢
    unfold Host.chgrp Host.setGroup
    cases hw : Host.wantedGroup p.gid with
    | error refused =>
      simp only [hw, Option.some.injEq] at hr
      subst hr
      -- The number itself is refused, before the path is looked at.
      have hrange : refused = .groupOutOfRange := by
        unfold Host.wantedGroup at hw
        split at hw
        · cases hw
        · split at hw
          · cases hw
          · exact (Except.error.inj hw).symm
      subst hrange
      rfl
    | ok wanted =>
      simp only [hw] at hr
      split at hr
      · cases hr
      · rename_i hmay
        cases hr
        simp only [hlook, bind, Except.bind, hinfo, hmay, Bool.false_eq_true, ↓reduceIte]
        rfl

theorem write_of_refusal? (hl : h.locate path false = .ok l) (hi : h.disk.infoAt l = some p.old)
    (hr : p.refusal? path h = some fault) : p.write path h = .error fault := by
  unfold write
  rw [setGroup_of_refusal? hl hi hr]
  rfl

theorem change?_of_refusal? (s : Standing) (isDryRun : Bool) (hr : p.refusal? path h = some fault) :
    ∃ c, p.change? s isDryRun = some c := by
  have hgid : p.gid ≠ p.old.gid := by
    intro hg
    simp [refusal?, hg] at hr
  unfold change?
  exact ⟨_, if_neg fun hsame => hgid hsame.2⟩

end Plan

/-! ### The fault of one node -/

namespace Host
variable {h h' : Host} {clock : Clock} {isDryRun : Bool} {s : Standing} {fault : TreeFault}

/-- The fault that handling a node on a host comes to. A dry run sets no group and so is refused none. -/
def fault? (h : Host) (clock : Clock) (isDryRun : Bool) (s : Standing) : Option TreeFault :=
  match h.plan clock s with
  | .error fault => some fault
  | .ok p => if isDryRun then none else (p.refusal? s.path h).map .disk

theorem handle_of_fault? (hf : h.fault? clock isDryRun s = some fault) : h.handle clock isDryRun s = .error fault := by
  unfold fault? at hf
  unfold handle perform
  cases hp : h.plan clock s with
  | error refused =>
    rw [hp] at hf
    cases hf
    rfl
  | ok p =>
    obtain ⟨l, hl, hi⟩ := stat_eq_ok.mp (plan_eq_ok.mp hp).1
    cases isDryRun with
    | true => simp [hp] at hf
    | false =>
      simp only [hp, Bool.false_eq_true, ↓reduceIte, Option.map_eq_some_iff] at hf ⊢
      obtain ⟨refused, hr, rfl⟩ := hf
      obtain ⟨c, hc⟩ := Plan.change?_of_refusal? s false hr
      simp only [hc, Plan.write_of_refusal? hl hi hr]

theorem handle_of_fault?_eq_none (hf : h.fault? clock isDryRun s = none) :
    ∃ r, h.handle clock isDryRun s = .ok r := by
  unfold fault? at hf
  cases hp : h.plan clock s with
  | error refused => simp [hp] at hf
  | ok p =>
    cases isDryRun with
    | true =>
      unfold handle perform
      rw [hp]
      simp only [↓reduceIte]
      split <;> exact ⟨_, rfl⟩
    | false =>
      simp only [hp, Bool.false_eq_true, ↓reduceIte, Option.map_eq_none_iff] at hf
      exact handle_of_granted hp (Plan.refusal?_eq_none_iff.mp hf) false

/-- A node comes to the same fault as long as its own entry is as before. -/
theorem SameShape.fault? (same : SameShape h h')
    (hsame : ∀ l, h.locate s.path false = .ok l → h'.disk.infoAt l = h.disk.infoAt l) :
    h'.fault? clock isDryRun s = h.fault? clock isDryRun s := by
  have hcaller : h'.mayChangeGroup = h.mayChangeGroup := by
    rw [same.rest]
    rfl
  unfold Host.fault? Plan.refusal?
  rw [same.plan clock hsame, hcaller]

theorem handle_dry {c : Option Change} (hh : h.handle clock true s = .ok (h', c)) : h' = h := by
  unfold handle perform at hh
  split at hh
  · cases hh
  · split at hh <;> cases hh <;> rfl

end Host

/-- A change that was made. -/
def Change.made (c : Change) : Change := { c with isDryRun := false }

/-- A report of changes that were made. -/
def Report.made (r : Report) : Report := { r with changes := r.changes.map Change.made, isDryRun := false }

namespace Tree

namespace Progress
variable {clock : Clock} {x : Progress} {s : Standing} {ss : List Standing}

theorem steps_append (clock : Clock) (ss ss' : List Standing) : ∀ x : Progress, steps clock (ss ++ ss') x =
    match steps clock ss x with
    | (none, x) => steps clock ss' x
    | (some fault, x) => (some fault, x) := by
  induction ss with
  | nil => exact fun x => rfl
  | cons s ss ih =>
    intro x
    rw [List.cons_append, steps_cons, steps_cons]
    rcases x.step clock s with ⟨_ | fault, x'⟩
    · exact ih x'
    · rfl

theorem step_of_fault? {fault : TreeFault} (hf : x.host.fault? clock x.report.isDryRun s = some fault) :
    x.step clock s = (some fault, x.visit x.host none) := by
  have hh := Host.handle_of_fault? hf
  unfold step
  rw [hh]

/-- A dry run leaves the host as it is. -/
theorem steps_dry (ss : List Standing) : ∀ x : Progress, x.report.isDryRun = true →
    (steps clock ss x).2.host = x.host := by
  induction ss with
  | nil => exact fun x _ => rfl
  | cons s ss ih =>
    intro x hdry
    rw [steps_cons]
    cases hx : x.step clock s with
    | mk fault x' =>
      cases fault with
      | some fault => exact (step_fault hx).2
      | none =>
        unfold step at hx
        rw [hdry] at hx
        split at hx
        · cases hx
        · rename_i h' c hh
          cases hx
          obtain rfl := Host.handle_dry hh
          exact ih _ hdry

/-- Nodes with locations of their own are all handled if none comes to a fault on the host at the start. -/
theorem steps_of_fault?_eq_none (ss : List Standing) : ∀ x : Progress, Apart x.host ss →
    (∀ s ∈ ss, x.host.fault? clock x.report.isDryRun s = none) → (steps clock ss x).1 = none := by
  induction ss with
  | nil => exact fun x _ _ => rfl
  | cons s ss ih =>
    intro x hapart hall
    obtain ⟨hfirst, hrest⟩ := List.pairwise_cons.mp hapart
    rw [steps_cons]
    cases hx : x.step clock s with
    | mk fault x' =>
      cases fault with
      | some fault =>
        obtain ⟨r, hr⟩ := Host.handle_of_fault?_eq_none (hall s List.mem_cons_self)
        rw [(step_fault hx).1] at hr
        cases hr
      | none =>
        obtain ⟨p, l, -, hl, hsets, hx'⟩ := step_ok hx
        have hdry : x'.report.isDryRun = x.report.isDryRun := by rw [hx']; rfl
        refine ih x' (hrest.imp fun hab k => by simpa only [hsets.locate] using hab k) fun s' hs' => ?_
        rw [hdry, hsets.fault? fun k hk => ?_, hall s' (List.mem_cons_of_mem _ hs')]
        rw [hsets.infoAt, if_neg]
        rintro rfl
        exact hfirst s' hs' k hl hk

/-- The first of such nodes that comes to a fault on the host at the start stops the run there. -/
theorem steps_of_fault? {before after : List Standing} {fault : TreeFault} (hapart : Apart x.host (before ++ s :: after))
    (hbefore : ∀ s ∈ before, x.host.fault? clock x.report.isDryRun s = none)
    (hs : x.host.fault? clock x.report.isDryRun s = some fault) :
    (steps clock (before ++ s :: after) x).1 = some fault ∧
      (steps clock (before ++ s :: after) x).2.report = { x.report with
        changes := x.report.changes ++ before.filterMap (x.host.change? clock x.report.isDryRun)
        visited := x.report.visited + before.length + 1 } := by
  obtain ⟨hapart', -, hcross⟩ := List.pairwise_append.mp hapart
  have hnone := steps_of_fault?_eq_none before x hapart' hbefore
  obtain ⟨-, hreport⟩ := steps_ok before x hapart' hnone
  have frame : Frame before x.host (steps clock before x).2.host := steps_frame before x
  rw [steps_append]
  cases hx : steps clock before x with
  | mk stopped x' =>
    rw [hx] at hnone hreport frame
    obtain rfl : stopped = none := hnone
    -- The nodes before have not touched what is seen at the location of this one.
    have hsame : ∀ l, x.host.locate s.path false = .ok l → x'.host.disk.infoAt l = x.host.disk.infoAt l := fun l hl =>
      frame.infoAt l fun s' hs' hl' => hcross s' hs' s List.mem_cons_self l hl' hl
    have hreport : x'.report = _ := hreport
    have hdry : x'.report.isDryRun = x.report.isDryRun := by rw [hreport]
    have hf : x'.host.fault? clock x'.report.isDryRun s = some fault := by
      rw [hdry, frame.toSameShape.fault? hsame, hs]
    simp only [steps_cons, step_of_fault? hf, true_and]
    simp [visit, hreport]

end Progress

/-! ### Whole runs -/

section
variable {h₀ h : Host} {config : Value} {root : Path} {t : Tree} {clock : Clock} {isDryRun : Bool}

/-- A run over nodes with locations of their own is stopped by the first one that comes to a fault on the host at the
start. -/
theorem apply_fault_eq (clock : Clock) (isDryRun : Bool) (hapart : Progress.Apart h t.managed) :
    (t.apply h clock isDryRun).fault = t.managed.findSome? (h.fault? clock isDryRun) := by
  rw [(apply_eq t h clock isDryRun).1]
  cases hf : t.managed.findSome? (h.fault? clock isDryRun) with
  | none =>
    rw [List.findSome?_eq_none_iff] at hf
    exact Progress.steps_of_fault?_eq_none t.managed ⟨h, .empty isDryRun⟩ hapart hf
  | some fault =>
    obtain ⟨before, s, after, hm, hs, hbefore⟩ := List.findSome?_eq_some_iff.mp hf
    rw [hm] at hapart ⊢
    exact (Progress.steps_of_fault? (x := ⟨h, .empty isDryRun⟩) hapart hbefore hs).1

end

/-! ### A group that is refused -/

namespace Refused

/-- A course with one file, run by who may set no other group than the one that is there. -/
def host : Host :=
  { Trial.host [("notes", Trial.file 0o644)] [] with caller := { mayChangeGroups := false, groups := [0] } }

/-- A config that sets the group and the mode. -/
def config : Value := .map [(.text "group", .text "staff"), (.text "mode", .text "0600")]

end Refused

end Tree

end Curfew
