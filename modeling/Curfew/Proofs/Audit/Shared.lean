import Curfew.Disk.Layout
import Curfew.Proofs.Audit.Reading
import Curfew.Proofs.Host.Sharing

/-! One audit file for many runs. Whoever appends reports to it, one after the other and through whichever path, the
file holds the records of all of them in the order of the calls, and those of one run are found by its name. -/

namespace Curfew

/-- One report that is appended: to which file, when, and what it is about. -/
structure Logging where
  audit : Audit
  now : WallTime
  root : Path
  report : Report

namespace Logging

/-- Appends the records of the report, at the time of the call. -/
def perform (c : Logging) : Audit.Writing Unit := do
  modify fun h => { h with now := c.now }
  c.audit.logReport c.root c.report

/-- The records of the report as they are read, each with the time of the call and the run that made it. -/
def records (c : Logging) : List Value := (Audit.reportRecords c.root c.report).map (c.audit.record (.utc c.now))

end Logging

namespace Audit

section
variable {a : Audit} {h : Host} {p : Path} {paths : List Path} {vs : List Value} {calls : List Logging}

/-! ### What is in the file -/

/-- The file of the paths holds these values, or is still to be made for the first one. -/
def HoldsAll (h : Host) (paths : List Path) (vs : List Value) : Prop :=
  (vs = [] ∧ h.OneFile paths) ∨ h.SharedFile paths (file vs)

theorem HoldsAll.clocked (hv : HoldsAll h paths vs) (zone : Offset) (now : WallTime) :
    HoldsAll (h.clocked zone now) paths vs :=
  hv.imp (fun ⟨hnil, ho⟩ => ⟨hnil, ho.clocked zone now⟩) id

/-- The file is opened with what is in it. -/
theorem HoldsAll.exists_shared (hv : HoldsAll h paths vs) (hp : p ∈ paths) :
    ∃ h₁ h₂, h.makeParents p = .ok h₁ ∧ h₁.appendFile p [] = .ok h₂ ∧ h₂.SharedFile paths (file vs) := by
  rcases hv with ⟨rfl, ho⟩ | hs
  · exact ho.exists_shared hp
  · exact hs.exists_shared hp

/-- Records are written behind what is in the file. -/
theorem HoldsAll.append (hv : HoldsAll h paths vs) (ha : a.path ∈ paths) {records : List Entries}
    (hr : ∀ fields ∈ records, Recordable fields) (hw : ∀ fields ∈ records, ∀ entry ∈ fields, Json.Writable entry) :
    ∃ h', (a.append records).run h = .ok () h' ∧ HoldsAll h' paths (vs ++ records.map (a.record (.utc h.now))) := by
  obtain ⟨h₁, h₂, hmake, hopen, hs⟩ := hv.exists_shared ha
  obtain ⟨l, attributes, hall⟩ := id hs
  obtain ⟨h₃, hrun, hg, hlook⟩ := run_writeRecords (.utc h.now) records (hall a.path ha).2 hw
  refine ⟨h₃, ?_, Or.inr ?_⟩
  · unfold Audit.append onHost
    simp only [EStateM.run_bind, EStateM.run_get, hmake, EStateM.run_set, hopen]
    exact hrun
  · rw [bytes_eq_file hr, ← file_append] at hlook
    exact hs.of_grows hg ha hlook

/-- One call adds its records. -/
theorem HoldsAll.perform (hv : HoldsAll h paths vs) {c : Logging} (hc : c.audit.path ∈ paths) :
    ∃ h', c.perform.run h = .ok () h' ∧ HoldsAll h' paths (vs ++ c.records) := by
  obtain ⟨h', hrun, hv'⟩ := (hv.clocked h.zone c.now).append hc (recordable_reportRecords c.root c.report)
    (writable_reportRecords c.root c.report)
  exact ⟨h', hrun, hv'⟩

theorem HoldsAll.select {choice : Value → Except AuditFault Bool} {keep : Value → Bool} (hv : HoldsAll h paths vs)
    (ha : a.path ∈ paths) (hvs : ∀ v ∈ vs, Json.Kept v ∧ choice v = .ok (keep v)) :
    a.select choice h = pure (vs.filter keep) := by
  rcases hv with ⟨rfl, ho⟩ | hs
  · obtain ⟨q, habsent⟩ := ho.absent a.path ha
    exact select_absent habsent
  · exact select_file (hs.content_eq ha) hvs

end

/-! ### Two runs -/

namespace Sharing

/-- A host with nothing but a course. -/
def host : Host := .bare ["course"] [] { mayChangeGroups := true, groups := [] } .utc ⟨0, by decide⟩

/-- The audit file as one run names it, and as another one does. -/
def one : Audit := { path := .ofText "audit.jsonl", runId := "one" }

/-- A change to a file whose name holds a line break, a quote, a backslash and a character beyond sixteen bits. -/
def change : Change :=
  { path := ⟨.top, ["course", "a\n\"b\"\\😀"]⟩, oldMode := 0o644, newMode := 0o600, oldGid := 0, newGid := 50
    group := "größe", isDryRun := false }

end Sharing

end Audit

end Curfew
