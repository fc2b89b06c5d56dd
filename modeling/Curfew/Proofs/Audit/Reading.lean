import Curfew.Proofs.Audit.Append
import Curfew.Proofs.Json.OneLine
import Curfew.Proofs.Text.Lines

/-! Reading an audit file. A record is written on a line of its own, and a file of such lines is read as the records in
it, without a notice; what is asked of them is asked of the values that were written. -/

namespace Curfew

theorem Told.pure_bind {ε α β : Type} (a : α) (f : α → Told ε β) : (pure a >>= f) = f a := rfl

namespace Audit

open Text

/-! ### Records -/

/-- The names that stand in front of each record. -/
def marks : List Value := [.text "timestamp", .text "run_id"]

/-- Fields that can stand behind the time and the run in a record: they have names of their own. -/
structure Recordable (fields : Entries) : Prop where
  kept : Json.EntriesKept fields
  nodup : (marks ++ fields.map (·.1)).Nodup

/-- The record as it is read: the time, the run, and then its fields. -/
def record (a : Audit) (stamp : Stamp) (fields : Entries) : Value :=
  .map ((.text "timestamp", .text stamp.text) :: (.text "run_id", .text a.runId) :: fields)

variable {a : Audit} {stamp : Stamp} {fields : Entries}

theorem Recordable.kept_record (hf : Recordable fields) (a : Audit) (stamp : Stamp) : Json.Kept (a.record stamp fields) :=
  ⟨hf.nodup, ⟨_, rfl⟩, trivial, ⟨_, rfl⟩, trivial, hf.kept⟩

theorem Recordable.stamped_eq (hf : Recordable fields) (a : Audit) (stamp : Stamp) :
    .map (a.stamped stamp fields) = a.record stamp fields := by
  obtain ⟨hnodup, hentries⟩ := hf.kept_record a stamp
  exact congrArg Value.map (Value.entriesOf_eq_self (Json.text_of_entriesKept hentries) hnodup)

theorem Recordable.line_eq (hf : Recordable fields) (a : Audit) (stamp : Stamp) :
    a.line stamp fields = .ok (Json.written (a.record stamp fields) ++ ['\n']) := by
  unfold line
  rw [hf.stamped_eq, Json.chars_eq_written (hf.kept_record a stamp)]
  rfl

theorem recordable_entries (c : Change) : Recordable c.entries where
  kept := by simp [Change.entries, Json.EntriesKept, Json.Kept]
  nodup := by simp [Change.entries, marks]

theorem recordable_completion (root : Path) (report : Report) : Recordable (completion root report) where
  kept := by simp [completion, Report.summary, Json.EntriesKept, Json.Kept]
  nodup := by simp [completion, Report.summary, marks]

theorem recordable_reportRecords (root : Path) (report : Report) : ∀ fields ∈ reportRecords root report, Recordable fields := by
  intro fields hf
  rcases List.mem_append.mp hf with hf | hf
  · obtain ⟨c, -, rfl⟩ := List.mem_map.mp hf
    exact recordable_entries c
  · rw [List.mem_singleton.mp hf]
    exact recordable_completion root report

/-! ### Files of records -/

/-- The bytes of a file that holds values, each on a line of its own. -/
def file (vs : List Value) : List UInt8 := Utf8.encode ((vs.map Json.written).flatMap (· ++ ['\n']))

theorem file_append (vs ws : List Value) : file (vs ++ ws) = file vs ++ file ws := by
  simp [file, Utf8.encode]

theorem bytes_eq_file {records : List Entries} (hr : ∀ fields ∈ records, Recordable fields) :
    a.bytes stamp records = file (records.map (a.record stamp)) := by
  induction records with
  | nil => rfl
  | cons fields records ih =>
    obtain ⟨hf, hrest⟩ := List.forall_mem_cons.mp hr
    have hfirst : file [a.record stamp fields] = Utf8.encode (Json.written (a.record stamp fields) ++ ['\n']) := by
      simp [file]
    rw [← List.singleton_append, bytes_append, ih hrest, bytes_singleton (hf.line_eq a stamp), List.map_append, file_append,
      List.map_singleton, hfirst]

/-! ### Reading -/

variable {vs : List Value} {choice : Value → Except AuditFault Bool} {keep : Value → Bool}

theorem recordAt_written {v : Value} (hv : Json.Kept v) (a : Audit) (number : Nat) :
    a.recordAt number (Json.written v ++ ['\n']) = pure (some v) := by
  have hfilled : (trim (Json.written v ++ ['\n'])).isEmpty = false := Json.trim_line (Json.chars_eq_written hv) [] ['\n']
  unfold recordAt
  rw [hfilled, Json.read_chars (Json.chars_eq_written hv), Json.returned_of_kept hv]
  rfl

/-- The lines of values are read as the values, of which those that are wanted are kept. -/
theorem choose_written (hvs : ∀ v ∈ vs, Json.Kept v ∧ choice v = .ok (keep v)) (a : Audit) : ∀ number,
    a.choose choice number ((vs.map Json.written).map (· ++ ['\n'])) = pure (vs.filter keep) := by
  induction vs with
  | nil => exact fun _ => rfl
  | cons v vs ih =>
    intro number
    obtain ⟨⟨hv, hchoice⟩, hrest⟩ := List.forall_mem_cons.mp hvs
    have hread : Told.ofExcept (choice v) = pure (keep v) := by
      rw [hchoice]
      rfl
    rw [List.map_cons, List.map_cons, choose, recordAt_written hv, Told.pure_bind]
    dsimp only
    rw [hread, Told.pure_bind, ih hrest, Told.pure_bind, List.filter_cons]

/-- A file of values is read as the values in it that are wanted. -/
theorem select_file {h : Host} (hcontent : h.content a.path = .ok (file vs))
    (hvs : ∀ v ∈ vs, Json.Kept v ∧ choice v = .ok (keep v)) : a.select choice h = pure (vs.filter keep) := by
  have hends : ∀ cs ∈ vs.map Json.written, '\n' ∉ cs ∧ '\r' ∉ cs := by
    intro cs hcs
    obtain ⟨v, hv, rfl⟩ := List.mem_map.mp hcs
    exact (Json.plain_written (hvs v hv).1).no_lineEnd
  obtain ⟨hwhole, hlines⟩ := Content.lines_ofBytes hends
  have hread : Told.ofExcept (a.content h) = pure (Content.ofBytes (file vs)) := by
    unfold content
    rw [hcontent]
    rfl
  unfold select
  rw [hread, Told.pure_bind]
  unfold file
  rw [hlines, choose_written hvs, Told.pure_bind, if_pos hwhole]

theorem select_absent {h : Host} {p : Path} (habsent : h.content a.path = .error (.system .notFound p)) :
    a.select choice h = pure [] := by
  unfold select content
  rw [habsent]
  rfl

/-! ### What is asked of the records -/

end Audit

end Curfew
