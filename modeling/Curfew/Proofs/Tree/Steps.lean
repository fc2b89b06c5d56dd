import Curfew.Proofs.Tree.Plan

/-! A run node by node. Applying a tree handles the nodes below its root one after the other, in the order
of `walk`, and stops at the first fault, for which nothing was written. -/

namespace Curfew
namespace Tree

/-- Goes along a list with a step that may stop with a fault. -/
def untilFault {α σ ε : Type} (f : α → σ → Option ε × σ) : List α → σ → Option ε × σ
  | [], x => (none, x)
  | a :: as, x =>
    match f a x with
    | (none, x) => untilFault f as x
    | (some fault, x) => (some fault, x)

/-- A run under way without its notices. -/
structure Progress where
  host : Host
  report : Report

def Run.progress (r : Run) : Progress := ⟨r.host, r.report⟩

namespace Progress

/-- One more node is visited, and a change may be recorded. -/
def visit (x : Progress) (host : Host) (c : Option Change) : Progress :=
  { host, report := { x.report with changes := x.report.changes ++ c.toList, visited := x.report.visited + 1 } }

/-- The progress after one node, and the fault that it stops with if any. -/
def step (clock : Clock) (s : Standing) (x : Progress) : Option TreeFault × Progress :=
  match x.host.handle clock x.report.isDryRun s with
  | .error fault => (some fault, x.visit x.host none)
  | .ok (host, c) => (none, x.visit host c)

/-- The progress after nodes up to the first fault. -/
def steps (clock : Clock) (ss : List Standing) (x : Progress) : Option TreeFault × Progress :=
  untilFault (step clock) ss x

theorem steps_nil (clock : Clock) (x : Progress) : steps clock [] x = (none, x) := rfl

theorem steps_cons (clock : Clock) (s : Standing) (ss : List Standing) (x : Progress) :
    steps clock (s :: ss) x =
      match x.step clock s with
      | (none, x) => steps clock ss x
      | (some fault, x) => (some fault, x) := by
  unfold steps
  rw [untilFault]
  rcases x.step clock s with ⟨_ | fault, x⟩ <;> rfl

end Progress

/-- The nodes below the root in the order they are handled. -/
def managed (t : Tree) : List Standing := walkAll t.declared ++ walkAll t.discovered

theorem walk_eq (t : Tree) : t.walk = t.managed ++ [t.standing] := by
  cases t
  rfl

/-! ### Running the steps -/

namespace Running

/-- What came of running, without the notices. -/
def view : EStateM.Result TreeFault Run Unit → Option TreeFault × Progress
  | .ok _ r => (none, r.progress)
  | .error fault r => (some fault, r.progress)

/-- Visits one node and handles its entry. -/
def node (clock : Clock) (s : Standing) : Running Unit := do
  visit
  applyEntry clock s

theorem run_ofExcept {α : Type} (x : Except TreeFault α) (r : Run) :
    (ofExcept x).run r = match x with | .ok a => .ok a r | .error fault => .error fault r := by
  cases x <;> rfl

/-- Resolving the mode of a node gives notices and does nothing else. -/
theorem run_resolveMode (clock : Clock) (s : Standing) {i : EntryInfo} (hi : i.isLink = false) (r : Run) :
    ∃ told, (resolveMode clock s i).run r = match s.wantedMode clock i with
      | .ok mode => .ok mode { r with notices := told }
      | .error fault => .error fault { r with notices := told } := by
  unfold resolveMode Standing.wantedMode
  simp only [hi, Bool.false_eq_true, ↓reduceIte, EStateM.run_bind, run_ofExcept]
  rcases s.resolve clock with fault | (_ | p)
  · exact ⟨r.notices, rfl⟩
  · exact ⟨r.notices, rfl⟩
  · refine ⟨r.notices ++ [⟨.debug, .tree, governs s p (p.modeFor i.isDirectory)⟩], ?_⟩
    simp only [tell, EStateM.run_bind, EStateM.run_modify, run_ofExcept]
    rcases Mode.compile (p.modeFor i.isDirectory) i.mode i.isDirectory with fault | mode <;> rfl

/-- What is done once a node has its plan. -/
def carryOut (s : Standing) (p : Plan) : Running Unit :=
  if p.mode = p.old.mode ∧ p.gid = p.old.gid then
    tell .debug s!"{s.path}: already {p.mode.text}, unchanged"
  else settle s p.old p.mode p.gid

/-- What is done once a node has its mode. -/
def chooseGroup (s : Standing) (old : EntryInfo) (mode : Mode) : Running Unit := do
  let gid ← if s.group.isEmpty then pure old.gid else ofDisk ((← get).host.groupId s.group)
  carryOut s { old, mode, gid }

theorem applyEntry_eq (clock : Clock) (s : Standing) : applyEntry clock s = (do
    let old ← ofDisk ((← get).host.stat s.path)
    if old.isLink then chooseGroup s old old.mode
    else resolveMode clock s old >>= chooseGroup s old) := rfl

theorem run_chooseGroup (s : Standing) (old : EntryInfo) (mode : Mode) (r : Run) :
    (chooseGroup s old mode).run r = match r.host.wantedGid s old with
      | .ok gid => (carryOut s { old, mode, gid }).run r
      | .error fault => .error fault r := by
  unfold chooseGroup Host.wantedGid
  split
  · rfl
  · simp only [EStateM.run_bind, EStateM.run_get, ofDisk, run_ofExcept]
    rcases r.host.groupId s.group with fault | gid <;> rfl

theorem run_applyEntry (clock : Clock) (s : Standing) (r : Run) :
    ∃ told, (applyEntry clock s).run r = match r.host.plan clock s with
      | .ok p => (carryOut s p).run { r with notices := told }
      | .error fault => .error fault { r with notices := told } := by
  rw [applyEntry_eq]
  unfold Host.plan
  simp only [EStateM.run_bind, EStateM.run_get, ofDisk, run_ofExcept]
  cases r.host.stat s.path with
  | error fault => exact ⟨r.notices, rfl⟩
  | ok old =>
    cases hlink : old.isLink with
    | true =>
      refine ⟨r.notices, ?_⟩
      simp only [mapError_ok, hlink, ↓reduceIte, run_chooseGroup, Standing.wantedMode]
      rcases r.host.wantedGid s old with fault | gid <;> rfl
    | false =>
      obtain ⟨told, hmode⟩ := run_resolveMode clock s hlink r
      refine ⟨told, ?_⟩
      simp only [mapError_ok, hlink, Bool.false_eq_true, ↓reduceIte, EStateM.run_bind, hmode]
      rcases s.wantedMode clock old with fault | mode
      · rfl
      · simp only [run_chooseGroup]
        show (match r.host.wantedGid s old with | .ok gid => _ | .error fault => _) = _
        rcases r.host.wantedGid s old with fault | gid <;> rfl

/-! ### Writing -/

theorem run_chgrp (path : Path) (gid : Nat) (r : Run) :
    (chgrp path gid).run r = match r.host.chgrp path gid with
      | .ok host => .ok () { r with host }
      | .error fault => .error (.disk fault) r := by
  simp only [chgrp, EStateM.run_bind, EStateM.run_get, ofDisk, run_ofExcept]
  rcases r.host.chgrp path gid with fault | host <;> rfl

theorem run_chmod (path : Path) (mode : Mode) (r : Run) :
    ∃ told, (chmod path mode).run r = match (r.host.chmod path mode).outcome with
      | .ok host => .ok () { r with host, notices := told }
      | .error fault => .error (.disk fault) { r with notices := told } := by
  refine ⟨r.notices ++ (r.host.chmod path mode).notices, ?_⟩
  simp only [chmod, EStateM.run_bind, EStateM.run_get, EStateM.run_set, ofDisk, run_ofExcept]
  rcases (r.host.chmod path mode).outcome with fault | host <;> rfl

def changeGroup (s : Standing) (p : Plan) (isDryRun : Bool) : Running Unit := do
  if p.gid ≠ p.old.gid then
    tell .info s!"chgrp {s.group} {s.path}"
    if !isDryRun then chgrp s.path p.gid

def changeMode (s : Standing) (p : Plan) (isDryRun : Bool) : Running Unit := do
  if p.mode ≠ p.old.mode then
    tell .info s!"chmod {p.mode.text} {s.path}"
    if !isDryRun then chmod s.path p.mode

theorem settle_eq (s : Standing) (p : Plan) : settle s p.old p.mode p.gid = (do
    let isDryRun := (← get).report.isDryRun
    changeGroup s p isDryRun
    changeMode s p isDryRun
    record { path := s.path, oldMode := p.old.mode.toNat, newMode := p.mode.toNat, oldGid := p.old.gid
             newGid := p.gid, group := s.group, isDryRun }) := by
  unfold settle changeGroup changeMode
  congr 1
  funext r
  cases r.report.isDryRun <;> by_cases hg : p.gid = p.old.gid <;> by_cases hm : p.mode = p.old.mode <;>
    simp [hg, hm]

theorem run_changeGroup (s : Standing) (p : Plan) (isDryRun : Bool) (r : Run) :
    ∃ told, (changeGroup s p isDryRun).run r =
      match if isDryRun then .ok r.host else p.setGroup s.path r.host with
      | .ok host => .ok () { r with host, notices := told }
      | .error fault => .error (.disk fault) { r with notices := told } := by
  unfold changeGroup Plan.setGroup
  by_cases hg : p.gid = p.old.gid
  · refine ⟨r.notices, ?_⟩
    simp only [ne_eq, hg, not_true_eq_false, ↓reduceIte, ite_self]
    rfl
  · refine ⟨r.notices ++ [⟨.info, .tree, s!"chgrp {s.group} {s.path}"⟩], ?_⟩
    cases isDryRun with
    | true => simp [hg, tell]
    | false =>
      simp only [ne_eq, hg, not_false_eq_true, ↓reduceIte, tell, EStateM.run_bind, EStateM.run_modify,
        Bool.not_false, run_chgrp, Bool.false_eq_true]

theorem run_changeMode (s : Standing) (p : Plan) (isDryRun : Bool) (r : Run) :
    ∃ told, (changeMode s p isDryRun).run r =
      match if isDryRun then .ok r.host else p.setMode s.path r.host with
      | .ok host => .ok () { r with host, notices := told }
      | .error fault => .error (.disk fault) { r with notices := told } := by
  unfold changeMode Plan.setMode
  by_cases hm : p.mode = p.old.mode
  · refine ⟨r.notices, ?_⟩
    simp only [ne_eq, hm, not_true_eq_false, ↓reduceIte, ite_self]
    rfl
  · let said : Run := { r with notices := r.notices ++ [⟨.info, .tree, s!"chmod {p.mode.text} {s.path}"⟩] }
    obtain ⟨told, hrun⟩ := run_chmod s.path p.mode said
    cases isDryRun with
    | true => exact ⟨said.notices, by simp [hm, tell, said]⟩
    | false =>
      refine ⟨told, ?_⟩
      simp only [ne_eq, hm, not_false_eq_true, ↓reduceIte, tell, EStateM.run_bind, EStateM.run_modify,
        Bool.not_false, Bool.false_eq_true]
      exact hrun

/-- A node that has its plan is handled as `Host.handle` says. -/
theorem view_carryOut {s : Standing} {p : Plan} {r : Run} {l : Location}
    (hl : r.host.locate s.path false = .ok l) (hi : r.host.disk.infoAt l = some p.old)
    (hlink : p.old.isLink = true → p.mode = p.old.mode) :
    view ((carryOut s p).run r) =
      match r.host.perform r.report.isDryRun s p with
      | .ok (host, c) => (none, ⟨host, { r.report with changes := r.report.changes ++ c.toList }⟩)
      | .error fault => (some fault, r.progress) := by
  unfold carryOut Host.perform Plan.change?
  split
  · simp [tell, view, Run.progress]
  · rw [settle_eq]
    obtain ⟨told, hgroup⟩ := run_changeGroup s p r.report.isDryRun r
    simp only [EStateM.run_bind, EStateM.run_get, hgroup]
    cases hdry : r.report.isDryRun with
    | true =>
      obtain ⟨told', hmode⟩ := run_changeMode s p true { r with notices := told }
      simp only [↓reduceIte] at hmode
      simp [hmode, record, view, Run.progress, hdry]
    | false =>
      cases hg : p.setGroup s.path r.host with
      | error fault => simp [Plan.write, hg, Except.bind, view, Run.progress]
      | ok h₁ =>
        -- Only setting the group can fail, and then nothing was written.
        obtain ⟨h₂, hm, -⟩ := Plan.setMode_of_setGroup hl hi hlink hg
        obtain ⟨told', hmode⟩ := run_changeMode s p false { r with host := h₁, notices := told }
        simp only [Bool.false_eq_true, ↓reduceIte, hm] at hmode
        simp [Plan.write, hg, hm, Except.bind, hmode, record, view, Run.progress, hdry]

/-! ### Whole runs -/

theorem view_node (clock : Clock) (s : Standing) (r : Run) :
    view ((node clock s).run r) = r.progress.step clock s := by
  let visited : Run := { r with report := { r.report with visited := r.report.visited + 1 } }
  have hrun : (node clock s).run r = (applyEntry clock s).run visited := rfl
  obtain ⟨told, happly⟩ := run_applyEntry clock s visited
  rw [hrun, happly]
  unfold Progress.step Host.handle
  show view (match r.host.plan clock s with | .ok p => _ | .error fault => _) = _
  cases hp : r.host.plan clock s with
  | error fault => simp [hp, view, Run.progress, Progress.visit, visited]
  | ok p =>
    obtain ⟨l, hl, hi⟩ := Host.stat_eq_ok.mp (Host.plan_eq_ok.mp hp).1
    have hview := view_carryOut (r := { visited with notices := told }) hl hi (Host.plan_link hp)
    simp only [hview, visited, Run.progress, hp]
    rcases r.host.perform r.report.isDryRun s p with fault | ⟨host, c⟩
    · simp [Progress.visit]
    · simp [Progress.visit]

theorem view_nodes (clock : Clock) (ss : List Standing) :
    ∀ r : Run, view ((forM ss (node clock)).run r) = Progress.steps clock ss r.progress := by
  induction ss with
  | nil => exact fun r => rfl
  | cons s ss ih =>
    intro r
    have hnode := view_node clock s r
    rw [List.forM_cons, EStateM.run_bind, Progress.steps_cons]
    cases hrun : (node clock s).run r with
    | ok u r' =>
      rw [hrun] at hnode
      simp only [← hnode, view]
      exact ih r'
    | error fault r' =>
      rw [hrun] at hnode
      simp only [← hnode, view]

mutual

theorem applyBelow_eq (clock : Clock) : ∀ t : Tree, applyBelow clock t = forM (walk t) (node clock)
  | .node s _ declared discovered => by
    rw [applyBelow, applyAll_eq clock declared, applyAll_eq clock discovered, walk]
    simp only [List.forM_append, List.forM_cons, List.forM_nil, node, bind_assoc, bind_pure_unit]

theorem applyAll_eq (clock : Clock) : ∀ ts : List Tree, applyAll clock ts = forM (walkAll ts) (node clock)
  | [] => rfl
  | t :: ts => by
    rw [applyAll, applyBelow_eq clock t, applyAll_eq clock ts, walkAll, List.forM_append]

end

end Running

/-- Applying a tree is handling the nodes below its root in turn; the root is counted after them. -/
theorem apply_eq (t : Tree) (h : Host) (clock : Clock) (isDryRun : Bool) :
    (apply t h clock isDryRun).fault = (Progress.steps clock t.managed ⟨h, .empty isDryRun⟩).1 ∧
      (apply t h clock isDryRun).run.progress =
        match Progress.steps clock t.managed ⟨h, .empty isDryRun⟩ with
        | (none, x) => x.visit x.host none
        | (some _, x) => x := by
  have hall : applyRoot clock t = (do
      forM t.managed (Running.node clock)
      Running.visit
      Running.tell .info (finished t.path (← get).report)) := by
    rw [applyRoot, Running.applyAll_eq, Running.applyAll_eq, managed, List.forM_append, bind_assoc]
  have hview := Running.view_nodes clock t.managed (.start h isDryRun)
  change _ = Progress.steps clock t.managed ⟨h, .empty isDryRun⟩ at hview
  unfold apply
  rw [hall, EStateM.run_bind, ← hview]
  cases (forM t.managed (Running.node clock)).run (.start h isDryRun) with
  | ok u r => simp [Running.visit, Running.tell, Running.view, Run.progress, Progress.visit]
  | error fault r => exact ⟨rfl, rfl⟩

end Tree

end Curfew
