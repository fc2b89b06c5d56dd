import Curfew.Proofs.Tree.Chain
import Curfew.Proofs.Tree.Steps
import Mathlib.Data.List.Basic

/-! A run as a fold. Applying a tree goes along its nodes in the order of `walk` with one step for each and stops at
the first node whose step fails. That step wrote nothing, so the disk is as the steps before it left it. -/

namespace Curfew
namespace Tree

namespace Running

/-! ### Steps one after the other -/

/-- A run with one more step, unless it was stopped before. -/
def onward (f : Standing → Running Unit) (came : EStateM.Result TreeFault Run Unit) (s : Standing) :
    EStateM.Result TreeFault Run Unit :=
  match came with
  | .ok _ r => (f s).run r
  | .error fault r => .error fault r

variable {f : Standing → Running Unit} {fault : TreeFault} {r r' : Run}

theorem foldl_onward_error (ss : List Standing) :
    ss.foldl (onward f) (.error fault r) = .error fault r := by
  induction ss with
  | nil => rfl
  | cons s ss ih => exact ih

theorem run_forM (ss : List Standing) : ∀ r : Run, (forM ss f).run r = ss.foldl (onward f) (.ok () r) := by
  induction ss with
  | nil => exact fun r => rfl
  | cons s ss ih =>
    intro r
    rw [List.forM_cons, EStateM.run_bind, List.foldl_cons, onward]
    cases (f s).run r with
    | ok u r' => exact ih r'
    | error fault r' => exact (foldl_onward_error ss).symm

/-- A run is stopped by the step of one node, and all steps before it ended without a fault. -/
theorem foldl_onward_inv (ss : List Standing) : ∀ r : Run, ss.foldl (onward f) (.ok () r) = .error fault r' →
    ∃ before s after r₁, ss = before ++ s :: after ∧ before.foldl (onward f) (.ok () r) = .ok () r₁ ∧
      (f s).run r₁ = .error fault r' := by
  induction ss with
  | nil => exact fun r h => by cases h
  | cons s ss ih =>
    intro r h
    rw [List.foldl_cons, onward] at h
    cases hs : (f s).run r with
    | error fault' r₁ =>
      rw [hs, foldl_onward_error] at h
      cases h
      exact ⟨[], s, ss, r, rfl, rfl, hs⟩
    | ok u r₁ =>
      rw [hs] at h
      obtain ⟨before, s', after, r₂, rfl, hbefore, hs'⟩ := ih r₁ h
      exact ⟨s :: before, s', after, r₂, rfl, by rw [List.foldl_cons, onward, hs, hbefore], hs'⟩

/-- A run ends without a fault just if each of its steps does. -/
theorem foldl_onward_ok_iff (ss : List Standing) (r : Run) :
    (∃ r', ss.foldl (onward f) (.ok () r) = .ok () r') ↔
      ∀ before s after, ss = before ++ s :: after →
        ∃ r₁ r₂, before.foldl (onward f) (.ok () r) = .ok () r₁ ∧ (f s).run r₁ = .ok () r₂ := by
  constructor
  · rintro ⟨r', h⟩ before s after rfl
    rw [List.foldl_append, List.foldl_cons] at h
    cases hbefore : before.foldl (onward f) (.ok () r) with
    | error fault r₁ =>
      rw [hbefore, onward, foldl_onward_error] at h
      cases h
    | ok u r₁ =>
      rw [hbefore, onward] at h
      cases hs : (f s).run r₁ with
      | error fault r₂ =>
        rw [hs, foldl_onward_error] at h
        cases h
      | ok u r₂ => exact ⟨r₁, r₂, rfl, hs⟩
  · intro hall
    cases h : ss.foldl (onward f) (.ok () r) with
    | ok u r' => exact ⟨r', rfl⟩
    | error fault r' =>
      obtain ⟨before, s, after, r₁, hss, hbefore, hs⟩ := foldl_onward_inv ss r h
      obtain ⟨r₂, r₃, hbefore', hs'⟩ := hall before s after hss
      obtain rfl : r₁ = r₂ := by simpa using hbefore.symm.trans hbefore'
      rw [hs] at hs'
      cases hs'

/-! ### The step of a node -/

/-- One node of a run: the root is counted, and every other node is handled as well. -/
def turn (clock : Clock) (root : Path) (s : Standing) : Running Unit := do
  visit
  if s.path ≠ root then applyEntry clock s

/-- The steps of nodes in their order: a left fold that keeps the first fault. -/
def along (clock : Clock) (root : Path) (ss : List Standing) (r : Run) : EStateM.Result TreeFault Run Unit :=
  ss.foldl (onward (turn clock root)) (.ok () r)

variable {clock : Clock} {root : Path} {s : Standing}

theorem turn_eq_node (hs : s.path ≠ root) : turn clock root s = node clock s := by
  unfold turn node
  rw [if_pos hs]

theorem turn_eq_visit (hs : s.path = root) : turn clock root s = visit := by
  unfold turn
  rw [if_neg (not_not_intro hs)]
  rfl

/-- A step counts its node, and one that fails does nothing else. -/
theorem view_turn (clock : Clock) (root : Path) (s : Standing) (r : Run) :
    (view ((turn clock root s).run r)).2.report.visited = r.report.visited + 1 ∧
      ((view ((turn clock root s).run r)).1 ≠ none →
        (view ((turn clock root s).run r)).2 = r.progress.visit r.host none) := by
  by_cases hs : s.path = root
  · rw [turn_eq_visit hs]
    exact ⟨rfl, fun h => absurd rfl h⟩
  · rw [turn_eq_node hs, view_node]
    unfold Progress.step
    split
    · exact ⟨rfl, fun _ => rfl⟩
    · exact ⟨rfl, fun h => absurd rfl h⟩

theorem visited_along (ss : List Standing) : ∀ {r r' : Run}, along clock root ss r = .ok () r' →
    r'.report.visited = r.report.visited + ss.length := by
  induction ss with
  | nil =>
    intro r r' h
    cases h
    simp
  | cons s ss ih =>
    intro r r' h
    have hone := (view_turn clock root s r).1
    rw [along, List.foldl_cons, onward] at h
    cases hs : (turn clock root s).run r with
    | error fault r₁ =>
      rw [hs, foldl_onward_error] at h
      cases h
    | ok u r₁ =>
      rw [hs] at h hone
      have hrest := ih h
      change r₁.report.visited = _ at hone
      rw [hrest, hone, List.length_cons]
      omega

/-- The node that stops a run is counted, and nothing else is done with it. -/
theorem along_stopped {ss : List Standing} (h : along clock root ss r = .error fault r') :
    ∃ before s after r₁, ss = before ++ s :: after ∧ along clock root before r = .ok () r₁ ∧
      (turn clock root s).run r₁ = .error fault r' ∧ r'.host = r₁.host ∧
      r'.report = { r₁.report with visited := r.report.visited + before.length + 1 } := by
  obtain ⟨before, s, after, r₁, hss, hbefore, hs⟩ := foldl_onward_inv ss r h
  have hstopped := (view_turn clock root s r₁).2
  rw [hs] at hstopped
  have hprogress : r'.progress = r₁.progress.visit r₁.host none := hstopped (by simp [view])
  have hreport : r'.report = (r₁.progress.visit r₁.host none).report := congrArg Progress.report hprogress
  refine ⟨before, s, after, r₁, hss, hbefore, hs, congrArg Progress.host hprogress, ?_⟩
  simpa [Progress.visit, Run.progress, visited_along before hbefore] using hreport

end Running

/-! ### Whole runs -/

section
variable {h₀ h : Host} {config : Value} {root : Path} {t : Tree} {s : Standing}

/-- The nodes that are handled lie below the root, under other paths. -/
theorem path_ne_of_managed (hb : (build h₀ config root).outcome = .ok t) (hs : s ∈ t.managed) : s.path ≠ t.path := by
  have hP : Inherited h₀ fun _ _ => True := ⟨fun _ _ => trivial, fun _ _ => trivial⟩
  obtain ⟨_, _, _, top, _, _, ho, -, hdeclared, -, rfl⟩ := ofOutline_inv hb
  have hnamed := Outline.named_ofValue config
  rw [ho] at hnamed
  have habove : top.path.Above s.path := by
    rcases List.mem_append.mp hs with hs | hs
    · obtain ⟨child, -, names, hpath, -⟩ := @Inherited.walkAll_ofDeclared _ _ hP _ _ _ [] hnamed.2 trivial hdeclared s hs
      exact ⟨child.1 :: names, List.cons_ne_nil _ _, hpath⟩
    · obtain ⟨child, -, names, hpath, -⟩ := @Inherited.walkAll_ofChildren _ _ hP _ _ [] trivial s hs
      exact ⟨child.1 :: names, List.cons_ne_nil _ _, hpath⟩
  exact habove.ne.symm

/-- What a run does, its last notice apart, is a fold over the nodes with one step for each. -/
theorem applyRoot_eq (hb : (build h₀ config root).outcome = .ok t) (clock : Clock) (r : Run) :
    (applyRoot clock t).run r = match Running.along clock t.path t.walk r with
      | .ok _ r => (Running.tell .info (finished t.path r.report)).run r
      | .error fault r => .error fault r := by
  have hmanaged : t.managed.foldl (Running.onward (Running.turn clock t.path)) (.ok () r) =
      t.managed.foldl (Running.onward (Running.node clock)) (.ok () r) :=
    List.foldl_ext _ _ _ fun came s hs => by
      unfold Running.onward
      rw [Running.turn_eq_node (path_ne_of_managed hb hs)]
  have hroot : applyRoot clock t = (do
      forM t.managed (Running.node clock)
      Running.visit
      Running.tell .info (finished t.path (← get).report)) := by
    rw [applyRoot, Running.applyAll_eq, Running.applyAll_eq, managed, List.forM_append, bind_assoc]
  rw [Running.along, walk_eq, List.foldl_append, hmanaged, ← Running.run_forM, hroot, EStateM.run_bind, List.foldl_cons,
    List.foldl_nil]
  have htop : Running.turn clock t.path t.standing = Running.visit := Running.turn_eq_visit rfl
  unfold Running.onward
  rw [htop]
  cases (forM t.managed (Running.node clock)).run r with
  | error fault r' => rfl
  | ok u r' => rfl

theorem apply_eq_along (hb : (build h₀ config root).outcome = .ok t) (clock : Clock) (isDryRun : Bool) :
    t.apply h clock isDryRun = match Running.along clock t.path t.walk (.start h isDryRun) with
      | .ok _ r => ⟨none, { r with notices := r.notices ++ [⟨.info, .tree, finished t.path r.report⟩] }⟩
      | .error fault r => ⟨some fault, r⟩ := by
  unfold apply
  rw [applyRoot_eq hb]
  rcases Running.along clock t.path t.walk (.start h isDryRun) with ⟨u, r⟩ | ⟨fault, r⟩ <;> rfl

/-- Applying a tree is a fold over its nodes in their order, children before parents. It ends without a fault just if
each step does, and then every node was visited. Otherwise one node stops it: the steps before that node are all that
was done, so the disk and the changes are as they left them. -/
theorem apply_eq_foldl (hb : (build h₀ config root).outcome = .ok t) (clock : Clock) (isDryRun : Bool) :
    (t.apply h clock isDryRun = match Running.along clock t.path t.walk (.start h isDryRun) with
      | .ok _ r => ⟨none, { r with notices := r.notices ++ [⟨.info, .tree, finished t.path r.report⟩] }⟩
      | .error fault r => ⟨some fault, r⟩) ∧
    ((t.apply h clock isDryRun).fault = none ↔ ∀ before s after, t.walk = before ++ s :: after →
      ∃ r r', Running.along clock t.path before (.start h isDryRun) = .ok () r ∧
        (Running.turn clock t.path s).run r = .ok () r') ∧
    ((t.apply h clock isDryRun).fault = none → (t.apply h clock isDryRun).run.report.visited = t.walk.length) ∧
    ∀ fault, (t.apply h clock isDryRun).fault = some fault → ∃ before s after r, t.walk = before ++ s :: after ∧
      Running.along clock t.path before (.start h isDryRun) = .ok () r ∧
      (Running.turn clock t.path s).run r = .error fault (t.apply h clock isDryRun).run ∧
      (t.apply h clock isDryRun).run.host = r.host ∧
      (t.apply h clock isDryRun).run.report = { r.report with visited := before.length + 1 } := by
  have hrun := apply_eq_along (h := h) hb clock isDryRun
  have hsteps : (∃ r, Running.along clock t.path t.walk (.start h isDryRun) = .ok () r) ↔ _ :=
    Running.foldl_onward_ok_iff t.walk (.start h isDryRun)
  cases halong : Running.along clock t.path t.walk (.start h isDryRun) with
  | ok u r =>
    rw [halong] at hrun hsteps
    refine ⟨hrun, ?_, fun _ => ?_, fun fault hfault => ?_⟩
    · rw [hrun]
      exact iff_of_true rfl (hsteps.mp ⟨r, rfl⟩)
    · rw [hrun]
      simpa [Run.start, Report.empty] using Running.visited_along t.walk halong
    · rw [hrun] at hfault
      cases hfault
  | error fault r =>
    rw [halong] at hrun hsteps
    refine ⟨hrun, ?_, fun hnone => ?_, fun fault' hfault => ?_⟩
    · rw [hrun]
      exact iff_of_false (by simp) fun hall => by simpa using hsteps.mpr hall
    · rw [hrun] at hnone
      cases hnone
    · rw [hrun] at hfault ⊢
      cases hfault
      obtain ⟨before, s, after, r₁, hwalk, hbefore, hs, hhost, hreport⟩ := Running.along_stopped halong
      exact ⟨before, s, after, r₁, hwalk, hbefore, hs, hhost, by simpa [Run.start, Report.empty] using hreport⟩

end

/-! ### A run that is stopped -/

namespace Stopped

/-- A course with one file. -/
def host : Host := Trial.host [("notes", Trial.file 0o644)] []

/-- A config that sets the mode of the file and of one that is not there. -/
def config : Value :=
  .map [(.text "notes", .map [(.text "mode", .text "0600")]), (.text "slides", .map [(.text "mode", .text "0600")])]

end Stopped

theorem apply_eq_foldl_course : ∃ t, (build Stopped.host Stopped.config Trial.root).outcome = .ok t ∧
    ∃ fault before s after, ∃ r : Run, (t.apply Stopped.host Trial.clock false).fault = some fault ∧
      t.walk = before ++ s :: after ∧ (t.apply Stopped.host Trial.clock false).run.host = r.host ∧
      (t.apply Stopped.host Trial.clock false).run.report = { r.report with visited := before.length + 1 } ∧
      (t.apply Stopped.host Trial.clock false).run.report.changes.length = 1 := by
  obtain ⟨t, ht, hfault, hchanges⟩ : ∃ t, (build Stopped.host Stopped.config Trial.root).outcome = .ok t ∧
      (t.apply Stopped.host Trial.clock false).fault.isSome = true ∧
      (t.apply Stopped.host Trial.clock false).run.report.changes.length = 1 :=
    exists_of_built (by decide +kernel)
  obtain ⟨fault, hfault⟩ := Option.isSome_iff_exists.mp hfault
  obtain ⟨before, s, after, r, hwalk, -, -, hhost, hreport⟩ :=
    (apply_eq_foldl ht Trial.clock false).2.2.2 fault hfault
  exact ⟨t, ht, fault, before, s, after, r, hfault, hwalk, hhost, hreport, hchanges⟩

end Tree

end Curfew
