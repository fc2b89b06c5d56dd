import Curfew.Proofs.Host.Writes
import Curfew.Tree.Apply

/-! What a run does with one node. A plan reads the host and holds what the entry of the node is to have;
carrying it out sets the group and then the mode, each only if it differs. Both writes are made or none. -/

namespace Curfew

/-- What is seen of the entry of a node, and the mode and the group it is to have. -/
structure Plan where
  old : EntryInfo
  mode : Mode
  gid : Nat
deriving DecidableEq

namespace Plan

/-- What is to be seen of the entry. -/
def wanted (p : Plan) : EntryInfo := { p.old with mode := p.mode, gid := p.gid }

/-- What is seen of the entry once its group was set, which is done only if it is to change. -/
def grouped (p : Plan) : EntryInfo :=
  if p.gid = p.old.gid then p.old
  else p.old.chgrp (if (p.gid : Int) = Host.noGroup then none else some p.gid)

/-- What is seen of the entry once its mode was set as well, again only if it is to change. -/
def left (p : Plan) : EntryInfo :=
  if p.mode = p.old.mode then p.grouped else { p.grouped with mode := p.mode }

/-- The change that is reported, if there is any. -/
def change? (p : Plan) (s : Standing) (isDryRun : Bool) : Option Change :=
  if p.mode = p.old.mode ∧ p.gid = p.old.gid then none
  else some { path := s.path, oldMode := p.old.mode.toNat, newMode := p.mode.toNat, oldGid := p.old.gid
              newGid := p.gid, group := s.group, isDryRun }

def setGroup (p : Plan) (path : Path) (h : Host) : Except DiskFault Host :=
  if p.gid = p.old.gid then .ok h else h.chgrp path p.gid

def setMode (p : Plan) (path : Path) (h : Host) : Except DiskFault Host :=
  if p.mode = p.old.mode then .ok h else (h.chmod path p.mode).outcome

/-- The two writes. -/
def write (p : Plan) (path : Path) (h : Host) : Except DiskFault Host :=
  (p.setGroup path h).bind (p.setMode path)

/-- The group is to stay, or the caller may set it. -/
def Granted (p : Plan) (h : Host) : Prop :=
  p.gid = p.old.gid ∨ ∃ wanted, Host.wantedGroup p.gid = .ok wanted ∧ h.mayChangeGroup p.old.gid wanted = true

theorem grouped_kind (p : Plan) : p.grouped.kind = p.old.kind := by
  unfold grouped
  split <;> rfl

theorem left_kind (p : Plan) : p.left.kind = p.old.kind := by
  unfold left
  split <;> exact p.grouped_kind

section
variable {p : Plan} {s : Standing} {isDryRun : Bool}

/-- Without a change to report, what is left is what was there. -/
theorem left_of_change?_eq_none (hc : p.change? s isDryRun = none) : p.left = p.old := by
  unfold change? at hc
  split at hc
  · rename_i hsame
    simp [left, grouped, hsame.1, hsame.2]
  · cases hc

theorem path_of_change? {c : Change} (hc : p.change? s isDryRun = some c) : c.path = s.path := by
  unfold change? at hc
  split at hc
  · cases hc
  · cases hc
    rfl

end

section
variable {p : Plan} {path : Path} {h h' : Host} {l : Location}

theorem setGroup_sets (hl : h.locate path false = .ok l) (hi : h.disk.infoAt l = some p.old)
    (hg : p.setGroup path h = .ok h') : Host.Sets h h' l p.grouped := by
  unfold setGroup at hg
  unfold grouped
  split at hg
  · rename_i hgid
    cases hg
    rw [if_pos hgid]
    exact .refl hi
  · rename_i hgid
    rw [if_neg hgid]
    exact Host.chgrp_sets hl hi hg

/-- Once the group is set, setting the mode does not fail, and the entry is left as it should be. -/
theorem setMode_of_setGroup (hl : h.locate path false = .ok l) (hi : h.disk.infoAt l = some p.old)
    (hlink : p.old.isLink = true → p.mode = p.old.mode) (hg : p.setGroup path h = .ok h') :
    ∃ h'', p.setMode path h' = .ok h'' ∧ Host.Sets h h'' l p.left := by
  have hsets := setGroup_sets hl hi hg
  unfold setMode left
  split
  · exact ⟨h', rfl, hsets⟩
  · rename_i hm
    have hk : p.grouped.kind ≠ .link := fun hk => hm (hlink (by simp [EntryInfo.isLink, ← p.grouped_kind, hk]))
    have hl' : h'.locate path false = .ok l := (hsets.locate path false).trans hl
    obtain ⟨h'', hc, hsets'⟩ := Host.chmod_sets p.mode hl' (by rw [hsets.infoAt, if_pos rfl]) hk
    exact ⟨h'', hc, hsets.trans hsets'⟩

theorem write_sets (hl : h.locate path false = .ok l) (hi : h.disk.infoAt l = some p.old)
    (hlink : p.old.isLink = true → p.mode = p.old.mode) (hw : p.write path h = .ok h') :
    Host.Sets h h' l p.left := by
  unfold write at hw
  cases hg : p.setGroup path h with
  | error fault => simp [hg, Except.bind] at hw
  | ok h₁ =>
    obtain ⟨h₂, hm, hsets⟩ := setMode_of_setGroup hl hi hlink hg
    rw [hg] at hw
    obtain rfl : h₂ = h' := Except.ok.inj (hm.symm.trans hw)
    exact hsets

theorem write_of_granted (hl : h.locate path false = .ok l) (hi : h.disk.infoAt l = some p.old)
    (hlink : p.old.isLink = true → p.mode = p.old.mode) (hp : p.Granted h) : ∃ h', p.write path h = .ok h' := by
  have hgroup : ∃ h₁, p.setGroup path h = .ok h₁ := by
    unfold setGroup
    split
    · exact ⟨h, rfl⟩
    · rename_i hgid
      obtain ⟨wanted, hw, hmay⟩ := hp.resolve_left hgid
      exact Host.chgrp_of_mayChangeGroup hl hi hw hmay
  obtain ⟨h₁, hg⟩ := hgroup
  obtain ⟨h₂, hm, -⟩ := setMode_of_setGroup hl hi hlink hg
  refine ⟨h₂, ?_⟩
  unfold write
  rw [hg]
  exact hm

end

end Plan

/-- The mode that a node is to have, given what its entry has. -/
def Standing.wantedMode (s : Standing) (clock : Clock) (i : EntryInfo) : Except TreeFault Mode :=
  if i.isLink then .ok i.mode
  else
    match s.resolve clock with
    | .error fault => .error fault
    | .ok none => .ok i.mode
    | .ok (some p) => (Mode.compile (p.modeFor i.isDirectory) i.mode i.isDirectory).mapError .expression

namespace Host

/-- The group that a node is to have, given what its entry has. -/
def wantedGid (h : Host) (s : Standing) (i : EntryInfo) : Except TreeFault Nat :=
  if s.group.isEmpty then .ok i.gid else (h.groupId s.group).mapError .disk

def plan (h : Host) (clock : Clock) (s : Standing) : Except TreeFault Plan :=
  match h.stat s.path with
  | .error fault => .error (.disk fault)
  | .ok old =>
    match s.wantedMode clock old with
    | .error fault => .error fault
    | .ok mode =>
      match h.wantedGid s old with
      | .error fault => .error fault
      | .ok gid => .ok { old, mode, gid }

theorem plan_eq_ok {h : Host} {clock : Clock} {s : Standing} {p : Plan} :
    h.plan clock s = .ok p ↔
      h.stat s.path = .ok p.old ∧ s.wantedMode clock p.old = .ok p.mode ∧ h.wantedGid s p.old = .ok p.gid := by
  unfold plan
  constructor
  · intro hp
    split at hp
    · cases hp
    · rename_i old hold
      split at hp
      · cases hp
      · rename_i mode hmode
        split at hp
        · cases hp
        · rename_i gid hgid
          cases hp
          exact ⟨hold, hmode, hgid⟩
  · rintro ⟨hold, hmode, hgid⟩
    simp only [hold, hmode, hgid]

theorem infoAt_of_plan {h : Host} {clock : Clock} {s : Standing} {p : Plan} {l : Location} (hp : h.plan clock s = .ok p)
    (hl : h.locate s.path false = .ok l) : h.disk.infoAt l = some p.old := by
  obtain ⟨k, hk, hi⟩ := stat_eq_ok.mp (plan_eq_ok.mp hp).1
  obtain rfl : l = k := Except.ok.inj (hl.symm.trans hk)
  exact hi

/-- The mode of a link is to stay. -/
theorem plan_link {h : Host} {clock : Clock} {s : Standing} {p : Plan} (hp : h.plan clock s = .ok p)
    (hlink : p.old.isLink = true) : p.mode = p.old.mode := by
  have hmode := (plan_eq_ok.mp hp).2.1
  unfold Standing.wantedMode at hmode
  rw [if_pos hlink] at hmode
  exact (Except.ok.inj hmode).symm

/-- The host once a plan was carried out, with the change to report. -/
def perform (h : Host) (isDryRun : Bool) (s : Standing) (p : Plan) : Except TreeFault (Host × Option Change) :=
  match p.change? s isDryRun with
  | none => .ok (h, none)
  | some c =>
    if isDryRun then .ok (h, some c)
    else
      match p.write s.path h with
      | .error fault => .error (.disk fault)
      | .ok h => .ok (h, some c)

/-- The host after the entry of a node was handled, with the change to report. -/
def handle (h : Host) (clock : Clock) (isDryRun : Bool) (s : Standing) :
    Except TreeFault (Host × Option Change) :=
  match h.plan clock s with
  | .error fault => .error fault
  | .ok p => h.perform isDryRun s p

end Host

end Curfew
