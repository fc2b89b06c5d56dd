import Curfew.Disk.Layout
import Curfew.Policy
import Curfew.Proofs.Audit.Opening
import Curfew.Proofs.Audit.Reading
import Curfew.Proofs.Json.Torn

/-! Audit files whose last line has no end. What is appended to a file stands behind all that is in it, and where the
last line is open, the first new record goes on it. Then neither of the two is read. -/

namespace Curfew
namespace Audit

open Text

/-! ### What is read of a text -/

/-- What a line holds: nothing if it is blank or malformed. -/
def held (line : List Char) : Option Value := if (trim line).isEmpty then none else (Json.read line).toOption

/-- The records in the lines of a text. -/
def heldIn (cs : List Char) : List Value := (lines cs).filterMap held

section
variable {a : Audit} {h : Host} {line cs : List Char} {bytes : List UInt8}

theorem outcome_recordAt (a : Audit) (number : Nat) (line : List Char) : (a.recordAt number line).outcome = .ok (held line) := by
  unfold recordAt held
  split
  · rfl
  · cases Json.read line with
    | ok v => rfl
    | error fault => cases fault; rfl

section
variable {choice : Value → Except AuditFault Bool} {keep : Value → Bool}

theorem choose_of_none {number : Nat} {line : List Char} {rest : List (List Char)} (hheld : held line = none) :
    (a.choose choice number (line :: rest)).outcome = (a.choose choice (number + 1) rest).outcome := by
  rw [choose, Told.outcome_bind, outcome_recordAt, ok_bind, hheld]

theorem choose_of_some {number : Nat} {line : List Char} {rest : List (List Char)} {v : Value} (hheld : held line = some v) :
    (a.choose choice number (line :: rest)).outcome = (choice v).bind fun isChosen =>
      (a.choose choice (number + 1) rest).outcome.map fun more => if isChosen then v :: more else more := by
  rw [choose, Told.outcome_bind, outcome_recordAt, ok_bind, hheld]
  dsimp only
  rw [Told.outcome_bind, Told.outcome_ofExcept]
  cases choice v with
  | error fault => rfl
  | ok isChosen =>
    rw [ok_bind, Told.outcome_bind]
    cases (a.choose choice (number + 1) rest).outcome <;> rfl

/-- The records of lines that are kept. -/
theorem choose_of_ok {lines : List (List Char)} (hchoice : ∀ v ∈ lines.filterMap held, choice v = .ok (keep v)) : ∀ number,
    (a.choose choice number lines).outcome = .ok ((lines.filterMap held).filter keep) := by
  induction lines with
  | nil => exact fun _ => rfl
  | cons line lines ih =>
    intro number
    cases hheld : held line with
    | none =>
      rw [List.filterMap_cons_none hheld] at hchoice ⊢
      rw [choose_of_none hheld, ih hchoice]
    | some v =>
      rw [List.filterMap_cons_some hheld] at hchoice ⊢
      obtain ⟨hv, hrest⟩ := List.forall_mem_cons.mp hchoice
      rw [choose_of_some hheld, hv, ih hrest, List.filter_cons]
      rfl

end

theorem outcome_choose (a : Audit) (lines : List (List Char)) (number : Nat) :
    (a.choose (fun _ => .ok true) number lines).outcome = .ok (lines.filterMap held) := by
  have hall : (a.choose (fun _ => .ok true) number lines).outcome = .ok ((lines.filterMap held).filter fun _ => true) :=
    choose_of_ok (fun _ _ => rfl) number
  rwa [List.filter_true] at hall

/-- A file that is there and holds a text, or an empty text and no file. -/
def HoldsText (a : Audit) (h : Host) (cs : List Char) : Prop := a.content h = .ok { chars := withLineFeeds cs, isWhole := true }

theorem holdsText_of_content {bytes : List UInt8} (hbytes : h.content a.path = .ok bytes) (hcs : Utf8.decode bytes = some cs) :
    a.HoldsText h cs := by
  unfold HoldsText content
  rw [hbytes]
  exact congrArg Except.ok (Content.ofBytes_of_decode hcs)

theorem holdsText_of_absent {p : Path} (habsent : h.content a.path = .error (.system .notFound p)) : a.HoldsText h [] := by
  unfold HoldsText content
  rw [habsent]
  rfl

theorem outcome_select (hholds : a.HoldsText h cs) (choice : Value → Except AuditFault Bool) :
    (a.select choice h).outcome = (a.choose choice 1 (lines (withLineFeeds cs))).outcome := by
  have hcontent : a.content h = .ok { chars := withLineFeeds cs, isWhole := true } := hholds
  unfold select
  rw [hcontent, Told.outcome_bind, Told.outcome_ofExcept, ok_bind, Told.outcome_bind]
  show (a.choose choice 1 (lines (withLineFeeds cs))).outcome.bind _ = _
  cases (a.choose choice 1 (lines (withLineFeeds cs))).outcome <;> rfl

theorem readAll_of_holdsText (hholds : a.HoldsText h cs) : (a.readAll h).outcome = .ok (heldIn (withLineFeeds cs)) := by
  unfold readAll
  rw [outcome_select hholds, outcome_choose]
  rfl

/-- The records of a file of UTF-8 are those in its lines. -/
theorem outcome_readAll (hbytes : h.content a.path = .ok bytes) (hcs : Utf8.decode bytes = some cs) :
    (a.readAll h).outcome = .ok (heldIn (withLineFeeds cs)) := readAll_of_holdsText (holdsText_of_content hbytes hcs)

/-! ### New lines -/

/-- The record as it is read again: with its time and its run, and of each value what a file keeps of it. -/
def asRead (a : Audit) (stamp : Stamp) (fields : Entries) : Value := Json.returned (.map (a.stamped stamp fields))

/-- A record of a report is read as it was written. -/
theorem asRead_of_recordable {fields : Entries} (hf : Recordable fields) (a : Audit) (stamp : Stamp) :
    a.asRead stamp fields = a.record stamp fields := by
  unfold asRead
  rw [hf.stamped_eq, Json.returned_of_kept (hf.kept_record a stamp)]

variable {stamp : Stamp} {record : Entries} {records : List Entries}

/-- What is written of a record in front of the end of its line. -/
def body (a : Audit) (stamp : Stamp) (record : Entries) : List Char := Json.written (.map (a.stamped stamp record))

theorem HasLine.chars_eq (hr : a.HasLine stamp record) :
    Json.chars (.map (a.stamped stamp record)) = .ok (a.body stamp record) := by
  obtain ⟨line, hline⟩ := hr
  obtain ⟨cs, hcs, -⟩ := bind_eq_ok.mp hline
  rw [body, Json.written_eq hcs, hcs]

theorem HasLine.line_eq (hr : a.HasLine stamp record) : a.line stamp record = .ok (a.body stamp record ++ ['\n']) := by
  unfold line
  rw [hr.chars_eq]
  rfl

theorem HasLine.no_lineEnd (hr : a.HasLine stamp record) : '\n' ∉ a.body stamp record ∧ '\r' ∉ a.body stamp record :=
  (Json.plain_chars hr.chars_eq).no_lineEnd

theorem HasLine.objectLine (hr : a.HasLine stamp record) : Json.ObjectLine (a.body stamp record ++ ['\n']) := by
  obtain ⟨w, entries, hstamped⟩ : ∃ w entries, a.stamped stamp record = (.text "timestamp", w) :: entries :=
    Value.entriesOf_cons _ _ _
  have hcs := hr.chars_eq
  rw [hstamped] at hcs
  exact Json.objectLine (by decide) hcs

/-- The text of the lines of records. -/
def text (a : Audit) (stamp : Stamp) (records : List Entries) : List Char :=
  (records.map (a.body stamp)).flatMap (· ++ ['\n'])

theorem bytes_eq_encode (hr : ∀ record ∈ records, a.HasLine stamp record) :
    a.bytes stamp records = Utf8.encode (a.text stamp records) := by
  induction records with
  | nil => rfl
  | cons record records ih =>
    obtain ⟨hfirst, hrest⟩ := List.forall_mem_cons.mp hr
    rw [← List.singleton_append, bytes_append, bytes_singleton hfirst.line_eq, ih hrest]
    simp [text, Utf8.encode]

/-- Line ends in front of new lines stay as they are, and there are no others in them than those of the lines. -/
theorem withLineFeeds_text (hr : ∀ fields ∈ record :: records, a.HasLine stamp fields) (cs : List Char) :
    withLineFeeds (cs ++ a.text stamp (record :: records)) = withLineFeeds cs ++ a.text stamp (record :: records) := by
  -- A carriage return at the end of the old text is a line end of its own, as a brace stands behind it.
  have hhead : (a.text stamp (record :: records)).head? ≠ some '\n' := by
    obtain ⟨inner, hinner⟩ := (hr record List.mem_cons_self).objectLine.head
    rw [text, List.map_cons, List.flatMap_cons, hinner, List.cons_append]
    simp
  have hreturn : '\r' ∉ a.text stamp (record :: records) := by
    refine return_not_mem_flatMap fun body hbody => ?_
    obtain ⟨fields, hfields, rfl⟩ := List.mem_map.mp hbody
    exact (hr fields hfields).no_lineEnd.2
  rw [withLineFeeds_append hhead, withLineFeeds_eq_self hreturn]

/-- Behind spaces a record is read from its line, and behind anything else nothing is. -/
theorem HasLine.held_behind (hr : a.HasLine stamp record) (front : List Char) :
    held (front ++ (a.body stamp record ++ ['\n'])) =
      if Json.skipSpace front = [] then some (a.asRead stamp record) else none := by
  unfold held
  rw [Json.trim_line hr.chars_eq]
  by_cases hspaces : Json.skipSpace front = []
  · rw [if_pos hspaces, Json.read_spaced hr.chars_eq hspaces]
    rfl
  · rw [if_neg hspaces, Json.read_torn hr.objectLine hspaces]
    rfl

theorem HasLine.held_eq (hr : a.HasLine stamp record) : held (a.body stamp record ++ ['\n']) = some (a.asRead stamp record) :=
  hr.held_behind []

/-! ### Reading behind what was there -/

theorem heldIn_closed_append (cs rest : List Char) : heldIn (closed cs ++ rest) = heldIn (closed cs) ++ heldIn rest := by
  unfold heldIn
  rw [lines_closed_append, List.filterMap_append]

/-- The records of lines that stand behind others. -/
theorem heldIn_text (hr : ∀ record ∈ records, a.HasLine stamp record) :
    heldIn (a.text stamp records) = records.map (a.asRead stamp) := by
  have hends : ∀ cs ∈ records.map (a.body stamp), '\n' ∉ cs := by
    intro cs hcs
    obtain ⟨record, hrecord, rfl⟩ := List.mem_map.mp hcs
    exact (hr record hrecord).no_lineEnd.1
  unfold heldIn text
  rw [lines_flatMap hends, List.map_map, List.filterMap_map, ← List.filterMap_eq_map]
  exact List.filterMap_congr fun record hrecord => (hr record hrecord).held_eq

/-- Behind an open line, the first of new lines is part of it. -/
theorem heldIn_behind {front : List Char} (hfront : '\n' ∉ front) (hr : ∀ fields ∈ record :: records, a.HasLine stamp fields) :
    heldIn (front ++ a.text stamp (record :: records)) =
      (if Json.skipSpace front = [] then [a.asRead stamp record] else []) ++ records.map (a.asRead stamp) := by
  obtain ⟨hfirst, hrest⟩ := List.forall_mem_cons.mp hr
  have hend : '\n' ∉ front ++ a.body stamp record := by
    rw [List.mem_append, not_or]
    exact ⟨hfront, hfirst.no_lineEnd.1⟩
  have htext : front ++ a.text stamp (record :: records) = front ++ a.body stamp record ++ '\n' :: a.text stamp records := by
    simp [text]
  have hmore := heldIn_text hrest
  unfold heldIn at hmore ⊢
  rw [htext, lines_append hend, List.append_assoc, List.filterMap_cons, hfirst.held_behind, hmore]
  by_cases hspaces : Json.skipSpace front = []
  · rw [if_pos hspaces, if_pos hspaces]
    rfl
  · rw [if_neg hspaces, if_neg hspaces]
    rfl

end

/-! ### Calls -/

/-- A call that appends one record, or all those of a report. -/
inductive Appending where
  | one (record : Entries)
  | all (root : Path) (report : Report)

namespace Appending

/-- Appends what is to be appended. -/
def perform (a : Audit) : Appending → Writing Unit
  | .one record => a.log record
  | .all root report => a.logReport root report

/-- The records of the call. -/
def records : Appending → List Entries
  | .one record => [record]
  | .all root report => reportRecords root report

theorem perform_eq (a : Audit) (c : Appending) : c.perform a = a.append c.records := by cases c <;> rfl

theorem exists_records (c : Appending) : ∃ record more, c.records = record :: more := by
  cases c with
  | one record => exact ⟨record, [], rfl⟩
  | all root report => exact List.exists_cons_of_ne_nil (by simp [records, reportRecords])

end Appending

section
variable {a : Audit} {h h' : Host} {c : Appending} {old : List UInt8} {cs : List Char}

/-- What is read of new lines behind a text. -/
theorem outcome_readAll_behind {stamp : Stamp} (hlines : ∀ record ∈ c.records, a.HasLine stamp record)
    (hcontent : h'.content a.path = .ok (old ++ a.bytes stamp c.records)) (hcs : Utf8.decode old = some cs) :
    (a.readAll h').outcome = .ok (heldIn (closed (withLineFeeds cs)) ++
      if Json.skipSpace (openEnd (withLineFeeds cs)) = [] then c.records.map (a.asRead stamp)
      else (c.records.map (a.asRead stamp)).tail) := by
  obtain ⟨record, more, hrecords⟩ := c.exists_records
  rw [hrecords] at hlines hcontent ⊢
  have hdecode : Utf8.decode (old ++ a.bytes stamp (record :: more)) = some (cs ++ a.text stamp (record :: more)) := by
    rw [bytes_eq_encode hlines, Utf8.decode_append hcs, Utf8.decode_encode]
    rfl
  have hfeeds : withLineFeeds (cs ++ a.text stamp (record :: more)) =
      closed (withLineFeeds cs) ++ (openEnd (withLineFeeds cs) ++ a.text stamp (record :: more)) := by
    rw [withLineFeeds_text hlines, ← List.append_assoc, closed_append_openEnd]
  rw [outcome_readAll hcontent hdecode, hfeeds, heldIn_closed_append, heldIn_behind (lineFeed_not_mem_openEnd _) hlines]
  split <;> rfl

/-- A file that can be read is one of UTF-8. -/
theorem exists_decode {bytes : List UInt8} {vs : List Value} (hbytes : h.content a.path = .ok bytes)
    (hread : (a.readAll h).outcome = .ok vs) : ∃ cs, Utf8.decode bytes = some cs := by
  cases hdecode : Utf8.decode bytes with
  | some cs => exact ⟨cs, rfl⟩
  | none =>
    have hcontent : ∃ content, a.content h = .ok content ∧ content.isWhole = false := by
      unfold content
      rw [hbytes]
      refine ⟨_, rfl, ?_⟩
      unfold Content.ofBytes
      rw [hdecode]
    obtain ⟨content, hcontent, hbroken⟩ := hcontent
    unfold readAll select at hread
    rw [hcontent, Told.outcome_bind, Told.outcome_ofExcept, ok_bind, Told.outcome_bind, outcome_choose, ok_bind, hbroken] at hread
    cases hread

/-- What is read after a call that returned, if the file can be read at all. -/
theorem readAll_returned {stamp : Stamp} {vs : List Value} (hlines : ∀ record ∈ c.records, a.HasLine stamp record)
    (hcontent : h'.content a.path = .ok (old ++ a.bytes stamp c.records)) (hread : (a.readAll h').outcome = .ok vs) :
    ∃ cs, Utf8.decode old = some cs ∧ vs = heldIn (closed (withLineFeeds cs)) ++
      if Json.skipSpace (openEnd (withLineFeeds cs)) = [] then c.records.map (a.asRead stamp)
      else (c.records.map (a.asRead stamp)).tail := by
  obtain ⟨all, hall⟩ := exists_decode hcontent hread
  rw [bytes_eq_encode hlines] at hall
  obtain ⟨cs, hcs⟩ := Utf8.decode_front (Utf8.continuation?_encode _) hall
  exact ⟨cs, hcs, Except.ok.inj (hread.symm.trans (outcome_readAll_behind hlines hcontent hcs))⟩

/-- What is read after a call of which the first record has a part of the text in front of it. -/
theorem outcome_readAll_perform (hold : h.content a.path = .ok old) (hcs : Utf8.decode old = some cs)
    (hrun : (c.perform a).run h = .ok () h') :
    h'.content a.path = .ok (old ++ a.bytes (.utc h.now) c.records) ∧
      (a.readAll h').outcome = .ok (heldIn (closed (withLineFeeds cs)) ++
        if Json.skipSpace (openEnd (withLineFeeds cs)) = [] then c.records.map (a.asRead (.utc h.now))
        else (c.records.map (a.asRead (.utc h.now))).tail) := by
  rw [c.perform_eq] at hrun
  obtain ⟨hlines, hcontent⟩ := append_inv hold hrun
  exact ⟨hcontent, outcome_readAll_behind hlines hcontent hcs⟩

end

/-! ### Files that a killed run left -/

namespace OpenEnd

/-- A host with an audit file that holds a text. -/
def host (cs : List Char) : Host :=
  { disk := .directory { mode := 0o755, gid := 0 } [("audit.jsonl", .file { mode := 0o644, gid := 0 } (Utf8.encode cs))]
    workingDirectory := [], groups := [], caller := { mayChangeGroups := true, groups := [] }, zone := .utc, now := Policy.epoch.wall }

def audit : Audit := { path := ⟨.working, ["audit.jsonl"]⟩, runId := "one" }

/-- A line that was not written to its end. -/
def broken : List Char := "\x7b\"event\": \"run_st".toList

/-- A line with a whole record that lacks only its end. -/
def unended : List Char := "\x7b\"event\": \"started\"\x7d".toList

def record : Entries := [(.text "event", .text "started")]

def root : Path := ⟨.top, ["course"]⟩

def report : Report :=
  let change : Change :=
    { path := ⟨.working, ["notes"]⟩, oldMode := 0o644, newMode := 0o600, oldGid := 0, newGid := 0, group := "root"
      isDryRun := false }
  { changes := [change], visited := 1, isDryRun := false }

theorem look_host (cs : List Char) : (host cs).look audit.path true =
    .ok (["audit.jsonl"], .file { mode := 0o644, gid := 0 } (Utf8.encode cs)) := rfl

theorem content_host (cs : List Char) : (host cs).content audit.path = .ok (Utf8.encode cs) :=
  Host.content_eq_ok.mpr ⟨_, _, look_host cs⟩

theorem exists_perform (cs : List Char) {c : Appending} (hw : ∀ record ∈ c.records, ∀ entry ∈ record, Json.Writable entry) :
    ∃ h', (c.perform audit).run (host cs) = .ok () h' := by
  rw [c.perform_eq]
  exact exists_append (List.cons_ne_nil _ _) (look_host cs) hw

end OpenEnd

end Audit

end Curfew
