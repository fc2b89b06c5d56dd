import Curfew.Proofs.Mode.Reading
import Curfew.Proofs.Tree.Located
import Curfew.Proofs.Tree.Rebuild

/-! Applying a tree again. A second run at the same time changes nothing just if each entry already has what is
wanted of it then. A mode may be given relative to the mode that is there, so this is not so of all expressions. -/

namespace Curfew

/-! ### Nothing to do -/

namespace Host
variable {h h' : Host} {clock : Clock} {s : Standing} {isDryRun : Bool}

/-- The entry of a node has the mode and the group that it is to have. -/
def Idle (h : Host) (clock : Clock) (s : Standing) : Prop :=
  ∃ p, h.plan clock s = .ok p ∧ p.mode = p.old.mode ∧ p.gid = p.old.gid

theorem Idle.handle (hi : h.Idle clock s) : h.handle clock isDryRun s = .ok (h, none) := by
  obtain ⟨p, hp, hsame⟩ := hi
  unfold Host.handle perform Plan.change?
  rw [hp]
  simp only [if_pos hsame]

theorem idle_of_handle (hh : h.handle clock isDryRun s = .ok (h', none)) : h.Idle clock s ∧ h' = h := by
  unfold Host.handle perform at hh
  cases hp : h.plan clock s with
  | error fault => simp [hp] at hh
  | ok p =>
    simp only [hp] at hh
    cases hc : p.change? s isDryRun with
    | none =>
      rw [hc] at hh
      cases hh
      refine ⟨⟨p, hp, ?_⟩, rfl⟩
      unfold Plan.change? at hc
      split at hc
      · assumption
      · cases hc
    | some c =>
      simp only [hc] at hh
      split at hh
      · cases hh
      · split at hh <;> cases hh

end Host

namespace Tree

namespace Progress
variable {clock : Clock}

/-- A run over nodes with nothing to do changes nothing. -/
theorem steps_idle (ss : List Standing) : ∀ x : Progress, (∀ s ∈ ss, x.host.Idle clock s) →
    (steps clock ss x).1 = none ∧ (steps clock ss x).2.host = x.host ∧
      (steps clock ss x).2.report.changes = x.report.changes := by
  induction ss with
  | nil => exact fun x _ => ⟨rfl, rfl, rfl⟩
  | cons s ss ih =>
    intro x hidle
    have hstep : x.step clock s = (none, x.visit x.host none) := by
      unfold step
      rw [(hidle s List.mem_cons_self).handle]
    rw [steps_cons, hstep]
    obtain ⟨hok, hhost, hchanges⟩ := ih (x.visit x.host none) fun s' hs' => hidle s' (List.mem_cons_of_mem _ hs')
    exact ⟨hok, hhost, hchanges.trans (by simp [visit])⟩

theorem steps_changes (clock : Clock) (ss : List Standing) : ∀ x : Progress,
    ∃ more, (steps clock ss x).2.report.changes = x.report.changes ++ more := by
  induction ss with
  | nil => exact fun x => ⟨[], by simp [steps_nil]⟩
  | cons s ss ih =>
    intro x
    have one : ∃ more, (x.step clock s).2.report.changes = x.report.changes ++ more := by
      unfold step
      split <;> exact ⟨_, rfl⟩
    obtain ⟨first, hfirst⟩ := one
    rw [steps_cons]
    cases hx : x.step clock s with
    | mk fault x' =>
      rw [hx] at hfirst
      cases fault with
      | some fault => exact ⟨first, hfirst⟩
      | none =>
        obtain ⟨more, hmore⟩ := ih x'
        exact ⟨first ++ more, by rw [hmore, hfirst, List.append_assoc]⟩

/-- A run without a fault that reports no change had nothing to do. -/
theorem idle_of_steps (ss : List Standing) : ∀ x : Progress, (steps clock ss x).1 = none →
    (steps clock ss x).2.report.changes = x.report.changes → ∀ s ∈ ss, x.host.Idle clock s := by
  induction ss with
  | nil => exact fun x _ _ => by simp
  | cons s ss ih =>
    intro x hok hchanges
    rw [steps_cons] at hok hchanges
    cases hh : x.host.handle clock x.report.isDryRun s with
    | error fault =>
      have hstep : x.step clock s = (some fault, x.visit x.host none) := by
        unfold step
        rw [hh]
      simp [hstep] at hok
    | ok r =>
      obtain ⟨h', c⟩ := r
      have hstep : x.step clock s = (none, x.visit h' c) := by
        unfold step
        rw [hh]
      simp only [hstep] at hok hchanges
      -- No later step takes a change back, so this one made none.
      obtain ⟨more, hmore⟩ := steps_changes clock ss (x.visit h' c)
      have hnone : c = none := by
        rw [hmore] at hchanges
        have hlength := congrArg List.length hchanges
        cases c with
        | none => rfl
        | some c => simp [visit] at hlength
      subst hnone
      obtain ⟨hidle, rfl⟩ := Host.idle_of_handle hh
      intro s' hs'
      rcases List.mem_cons.mp hs' with rfl | hs'
      · exact hidle
      · exact ih (x.visit x.host none) hok (hchanges.trans (by simp [visit])) s' hs'

end Progress

/-- A run ends without a fault and without a change just if there was nothing to do, and then it leaves all as it
was. -/
theorem apply_idle_iff (t : Tree) (h : Host) (clock : Clock) (isDryRun : Bool) :
    ((t.apply h clock isDryRun).fault = none ∧ (t.apply h clock isDryRun).run.report.changes = [] ∧
      (t.apply h clock isDryRun).run.host = h) ↔ ∀ s ∈ t.managed, h.Idle clock s := by
  obtain ⟨hfault, hrun⟩ := apply_eq t h clock isDryRun
  have hchanges : (t.apply h clock isDryRun).run.report.changes =
      (Progress.steps clock t.managed ⟨h, .empty isDryRun⟩).2.report.changes := by
    change (t.apply h clock isDryRun).run.progress.report.changes = _
    rw [hrun]
    rcases Progress.steps clock t.managed ⟨h, .empty isDryRun⟩ with ⟨_ | fault, x⟩
    · simp [Progress.visit]
    · rfl
  rw [hfault, hchanges, apply_host]
  constructor
  · rintro ⟨hok, hnone, -⟩
    exact Progress.idle_of_steps t.managed ⟨h, .empty isDryRun⟩ hok hnone
  · intro hidle
    obtain ⟨hok, hhost, hnone⟩ := Progress.steps_idle t.managed ⟨h, .empty isDryRun⟩ hidle
    exact ⟨hok, hnone, hhost⟩

end Tree

/-! ### What comes next -/

/-- An expression is refused for every mode or for none. -/
theorem Mode.compile_of_compile {expression : String} {mode mode' new : Mode} {isDirectory : Bool}
    (h : compile expression mode isDirectory = .ok new) : ∃ new', compile expression mode' isDirectory = .ok new' := by
  obtain ⟨e, he, -⟩ := compile_eq_ok.mp h
  exact ⟨e.run isDirectory mode', compile_eq_ok.mpr ⟨e, he, rfl⟩⟩

/-- A node has a mode for every entry of a kind or for none. -/
theorem Standing.wantedMode_of_kind {s : Standing} {clock : Clock} {i j : EntryInfo} {mode : Mode} (hk : j.kind = i.kind)
    (hm : s.wantedMode clock i = .ok mode) : ∃ mode', s.wantedMode clock j = .ok mode' := by
  have hlink : j.isLink = i.isLink := by simp only [EntryInfo.isLink, hk]
  have hdirectory : j.isDirectory = i.isDirectory := by simp only [EntryInfo.isDirectory, hk]
  unfold wantedMode at hm ⊢
  rw [hlink, hdirectory]
  split at hm
  · rename_i h
    exact ⟨j.mode, by rw [if_pos h]⟩
  · rename_i h
    rw [if_neg h]
    split at hm
    · cases hm
    · exact ⟨_, rfl⟩
    · obtain ⟨new, hnew⟩ := Mode.compile_of_compile (mapError_eq_ok.mp hm)
      exact ⟨new, mapError_eq_ok.mpr hnew⟩

namespace Plan

/-- What is left of an entry is what is wanted of it next. -/
def Stable (p : Plan) (clock : Clock) (s : Standing) : Prop :=
  s.wantedMode clock p.left = .ok p.left.mode ∧ p.left.gid = p.gid

theorem left_gid (p : Plan) : p.left.gid = p.grouped.gid := by
  unfold left
  split <;> rfl

theorem left_gid_of_same {p : Plan} (h : p.gid = p.old.gid) : p.left.gid = p.gid := by
  rw [left_gid, grouped, if_pos h, h]

/-- The group that is left is the one that is wanted, unless that is no group. -/
theorem left_gid_or (p : Plan) : p.left.gid = p.gid ∨ (p.gid : Int) = Host.noGroup := by
  by_cases hg : p.gid = p.old.gid
  · exact Or.inl (left_gid_of_same hg)
  · by_cases hn : (p.gid : Int) = Host.noGroup
    · exact Or.inr hn
    · refine Or.inl ?_
      rw [left_gid, grouped, if_neg hg, if_neg hn]
      rfl

/-- The plan for an entry that was handled, given the mode that is wanted then. -/
def next (p : Plan) (mode : Mode) : Plan := { old := p.left, mode, gid := p.gid }

/-- Who could set a group can do so again. -/
theorem granted_next (p : Plan) (mode : Mode) (h : Host) : (p.next mode).Granted h := by
  refine p.left_gid_or.imp Eq.symm fun hn => ⟨none, ?_, rfl⟩
  show Host.wantedGroup (p.gid : Int) = .ok none
  unfold Host.wantedGroup
  rw [if_pos (Or.inr hn)]

end Plan

/-- A node that was handled has a plan again, which goes on from what was left. -/
theorem Host.plan_next {h h' : Host} {clock : Clock} {s : Standing} {p : Plan} (same : h.SameShape h')
    (hp : h.plan clock s = .ok p) (hstat : h'.stat s.path = .ok p.left) :
    ∃ mode, s.wantedMode clock p.left = .ok mode ∧ h'.plan clock s = .ok (p.next mode) := by
  obtain ⟨-, hmode, hgid⟩ := plan_eq_ok.mp hp
  obtain ⟨mode, hnext⟩ := Standing.wantedMode_of_kind p.left_kind hmode
  refine ⟨mode, hnext, plan_eq_ok.mpr ⟨hstat, hnext, ?_⟩⟩
  have hgroup : h'.groupId = h.groupId := by
    rw [same.rest]
    rfl
  unfold wantedGid at hgid ⊢
  rw [hgroup]
  split at hgid
  · rename_i hempty
    rw [if_pos hempty]
    exact congrArg Except.ok (Plan.left_gid_of_same (Except.ok.inj hgid).symm)
  · rename_i hgiven
    rw [if_neg hgiven]
    exact hgid

theorem Plan.idle_iff_stable {h : Host} {clock : Clock} {s : Standing} {p : Plan} {mode : Mode}
    (hmode : s.wantedMode clock p.left = .ok mode) (hp : h.plan clock s = .ok (p.next mode)) :
    h.Idle clock s ↔ p.Stable clock s := by
  unfold Host.Idle Stable
  rw [hp, hmode]
  constructor
  · rintro ⟨q, hq, hsame, hgid⟩
    cases hq
    exact ⟨congrArg Except.ok hsame, hgid.symm⟩
  · rintro ⟨hsame, hgid⟩
    exact ⟨p.next mode, rfl, Except.ok.inj hsame, hgid.symm⟩

/-! ### Steady expressions -/

/-- An expression that gives a mode it made itself again. -/
def Mode.Steady (expression : String) : Prop :=
  ∀ isDirectory mode new, compile expression mode isDirectory = .ok new → compile expression new isDirectory = .ok new

/-- A number is the mode itself, whatever is there. -/
theorem Mode.steady_of_isOctal {expression : String} (h : isOctal (Text.trim expression.toList) = true) :
    Steady expression := by
  have hread : read expression = .ok (.octal (BitVec.ofNat 12 (octalValue (Text.trim expression.toList)))) := by
    unfold read Expression.ofChars
    rw [if_pos h]
    rfl
  intro isDirectory mode new hnew
  obtain ⟨e, he, rfl⟩ := compile_eq_ok.mp hnew
  cases hread.symm.trans he
  exact compile_eq_ok.mpr ⟨_, hread, rfl⟩

/-- The expressions that govern a node are steady. -/
def Standing.Steady (s : Standing) (clock : Clock) : Prop :=
  ∀ p, s.resolve clock = .ok (some p) → ∀ isDirectory, Mode.Steady (p.modeFor isDirectory)

theorem Standing.Steady.wantedMode {s : Standing} {clock : Clock} (hs : s.Steady clock) {i j : EntryInfo}
    (hm : s.wantedMode clock i = .ok j.mode) (hk : j.kind = i.kind) : s.wantedMode clock j = .ok j.mode := by
  have hlink : j.isLink = i.isLink := by simp only [EntryInfo.isLink, hk]
  have hdirectory : j.isDirectory = i.isDirectory := by simp only [EntryInfo.isDirectory, hk]
  unfold Standing.wantedMode at hm ⊢
  rw [hlink, hdirectory]
  split at hm
  · rename_i h
    rw [if_pos h]
  · rename_i h
    rw [if_neg h]
    cases hr : s.resolve clock with
    | error fault => simp [hr] at hm
    | ok p =>
      cases p with
      | none => rfl
      | some p =>
        simp only [hr] at hm
        exact mapError_eq_ok.mpr (hs p hr _ _ _ _ (mapError_eq_ok.mp hm))

/-- What is wanted of a node with steady expressions is wanted of it again. -/
theorem Plan.stable_of_steady {h : Host} {clock : Clock} {s : Standing} {p : Plan} (hs : s.Steady clock)
    (hp : h.plan clock s = .ok p) (hleft : p.left = p.wanted) : p.Stable clock s := by
  unfold Stable
  rw [hleft]
  exact ⟨hs.wantedMode (Host.plan_eq_ok.mp hp).2.1 rfl, rfl⟩

namespace Tree

section
variable {h h' : Host} {config : Value} {root : Path} {t : Tree} {clock : Clock}

/-- Where no two nodes lead to one entry, a second run ends without a fault, and it has nothing to do just if all that
the first left is what is wanted of it next. -/
theorem idle_iff_of_apart (hapart : Progress.Apart h t.managed) (hok : (t.apply h clock false).fault = none)
    (hh : (t.apply h clock false).run.host = h') :
    (t.apply h' clock false).fault = none ∧
      ((∀ s ∈ t.managed, h'.Idle clock s) ↔ ∀ s ∈ t.managed, ∀ p, h.plan clock s = .ok p → p.Stable clock s) := by
  have frame : Progress.Frame t.managed h h' := hh ▸ apply_frame
  -- Each node goes on from what the first run left of its own entry.
  have hnext : ∀ s ∈ t.managed, ∃ p mode, h.plan clock s = .ok p ∧ s.wantedMode clock p.left = .ok mode ∧
      h'.plan clock s = .ok (p.next mode) := by
    intro s hs
    obtain ⟨p, l, hp, hl, hinfo⟩ := (apply_ok hapart hok).1 s hs
    have hstat := Host.stat_eq_ok.mpr ⟨l, (frame.locate s.path false).trans hl, hh ▸ hinfo⟩
    obtain ⟨mode, hmode, hplan⟩ := Host.plan_next frame.toSameShape hp hstat
    exact ⟨p, mode, hp, hmode, hplan⟩
  constructor
  · rw [(apply_eq t h' clock false).1]
    refine Progress.steps_of_granted t.managed _ (hapart.imp fun hab k => ?_) fun s hs => ?_
    · simpa only [frame.locate] using hab k
    · obtain ⟨p, mode, -, -, hplan⟩ := hnext s hs
      exact ⟨p.next mode, hplan, p.granted_next mode h'⟩
  · refine forall₂_congr fun s hs => ?_
    obtain ⟨p, mode, hp, hmode, hplan⟩ := hnext s hs
    rw [Plan.idle_iff_stable hmode hplan, hp]
    simp

/-- With steady expressions, a run that leaves all as it is wanted is not followed by another change. -/
theorem reapply_of_steady (hapart : Progress.Apart h t.managed) (hok : (t.apply h clock false).fault = none)
    (hh : (t.apply h clock false).run.host = h') (hsteady : ∀ s ∈ t.managed, s.Steady clock)
    (hleft : ∀ s ∈ t.managed, ∀ p, h.plan clock s = .ok p → p.left = p.wanted) :
    (t.apply h' clock false).fault = none ∧ (t.apply h' clock false).run.report.changes = [] ∧
      (t.apply h' clock false).run.host = h' := by
  refine (apply_idle_iff t h' clock false).mpr ((idle_iff_of_apart hapart hok hh).2.mpr fun s hs p hp => ?_)
  exact Plan.stable_of_steady (hsteady s hs) hp (hleft s hs p hp)

end

/-! ### A mode that moves on -/

namespace Copies

/-- A course with one file. -/
def host : Host := Trial.host [("notes", Trial.file 0o755)] []

/-- A config that hands the permissions of each class to the one before it. -/
def config : Value := .map [(.text "notes", .map [(.text "mode", .text "u=g,g=o,o=")])]

end Copies

end Tree

end Curfew
