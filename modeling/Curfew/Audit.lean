import Curfew.Host
import Curfew.Json.Reader
import Curfew.Json.Writer
import Curfew.Report
import Curfew.Text.Content

/-!
The audit trail: a file of records, one on each line.

Records are only appended. Each carries the time it was written and the run that wrote it, so several
runs can share one file. Lines that are no records are skipped when the trail is read.
-/

namespace Curfew

/-- An audit file with the run that writes to it. -/
structure Audit where
  path : Path
  runId : String
deriving DecidableEq

inductive AuditFault where
  | disk (fault : DiskFault)
  | badKey (key : Json.BadKey)
  | notUnicode
  /-- A line holds a value that is no object and so has no fields. -/
  | notRecord (kind : String)

namespace Audit

/-! ### Writing -/

/-- Writing may stop with a fault and keeps what was written before. -/
abbrev Writing := EStateM AuditFault Host

/-- Makes a change of the host. -/
def onHost (f : Host → Except DiskFault Host) : Writing Unit := do
  match f (← get) with
  | .ok h => set h
  | .error fault => throw (.disk fault)

/-- A record with its time and its run in front; fields of the same name replace them in place. -/
def stamped (a : Audit) (stamp : Stamp) (record : Entries) : Entries :=
  Value.entriesOf
    ((.text "timestamp", .text stamp.text) :: (.text "run_id", .text a.runId) :: record)

/-- The line of a record. -/
def line (a : Audit) (stamp : Stamp) (record : Entries) : Except Json.BadKey (List Char) := do
  return (← Json.chars (.map (a.stamped stamp record))) ++ ['\n']

/-- Appends one record to the file. -/
def writeRecord (a : Audit) (stamp : Stamp) (record : Entries) : Writing Unit := do
  match a.line stamp record with
  | .ok cs => onHost fun h => h.appendFile a.path (Text.Utf8.encode cs)
  | .error key => throw (.badKey key)

/-- Appends records to the file, which is made if need be with the directories above it. -/
def append (a : Audit) (records : List Entries) : Writing Unit := do
  let stamp := Stamp.utc (← get).now
  onHost fun h => h.makeParents a.path
  onHost fun h => h.appendFile a.path []
  records.forM (a.writeRecord stamp)

/-- Appends a single record. -/
def log (a : Audit) (record : Entries) : Writing Unit := a.append [record]

/-- The record that ends those of a report. -/
def completion (root : Path) (report : Report) : Entries :=
  (.text "event", .text "run_completed") :: (.text "root", .text root.text) :: report.summary

/-- The records of a report: its changes and then its summary. -/
def reportRecords (root : Path) (report : Report) : List Entries :=
  report.changes.map Change.entries ++ [completion root report]

/-- Appends the records of a report. -/
def logReport (a : Audit) (root : Path) (report : Report) : Writing Unit :=
  a.append (reportRecords root report)

/-- What is said of a report that was appended. -/
def logged (a : Audit) (root : Path) (report : Report) : Notice :=
  ⟨.debug, .audit, s!"Audited {report.changes.length} changes under {root} to {a.path}"⟩

/-! ### Reading -/

/-- The text of the file, which is empty if there is no file. -/
def content (a : Audit) (h : Host) : Except AuditFault Text.Content :=
  match h.content a.path with
  | .error (.system .notFound _) => .ok (.ofBytes [])
  | .error fault => .error (.disk fault)
  | .ok bytes => .ok (.ofBytes bytes)

/-- What is said of a line that is no record. -/
def skipped (a : Audit) (number : Nat) : Notice :=
  ⟨.warning, .audit, s!"{a.path}:{number}: skipping malformed audit record"⟩

/-- What a line holds; nothing if it is blank or malformed. -/
def recordAt (a : Audit) (number : Nat) (line : List Char) : Told AuditFault (Option Value) :=
  if (Text.trim line).isEmpty then return none
  else match Json.read line with
    | .ok v => return some v
    | .error .malformed => do
      Told.tell (a.skipped number)
      return none

/-- What a choice makes of each record of the lines from a number on. -/
def choose (a : Audit) (choice : Value → Except AuditFault Bool) (number : Nat) :
    List (List Char) → Told AuditFault (List Value)
  | [] => return []
  | line :: rest => do
    match ← a.recordAt number line with
    | none => a.choose choice (number + 1) rest
    | some v =>
      let isChosen ← Told.ofExcept (choice v)
      let more ← a.choose choice (number + 1) rest
      return if isChosen then v :: more else more

/-- The records of the file that a choice keeps. A file that is no UTF-8 gives none, but what can be read
of it is looked at first. -/
def select (a : Audit) (choice : Value → Except AuditFault Bool) (h : Host) :
    Told AuditFault (List Value) := do
  let content ← Told.ofExcept (a.content h)
  let records ← a.choose choice 1 content.lines
  if content.isWhole then return records else Told.fail .notUnicode

/-- Every record in the order of the file. -/
def readAll (a : Audit) (h : Host) : Told AuditFault (List Value) := a.select (fun _ => .ok true) h

/-- Whether a record has every field of the filters with an equal value; a missing field is null. -/
def matchesAll (filters : Entries) (record : Value) : Except AuditFault Bool :=
  if filters.isEmpty then .ok true
  else match record with
    | .map fields => .ok (filters.all fun filter =>
        ((Value.get? filter.1 fields).getD .null).same filter.2)
    | v => .error (.notRecord v.kindName)

/-- The records whose fields equal those of the filters. -/
def query (a : Audit) (filters : Entries) (h : Host) : Told AuditFault (List Value) :=
  a.select (matchesAll filters) h

def count (a : Audit) (h : Host) : Told AuditFault Nat := do
  return (← a.readAll h).length

end Audit

end Curfew
