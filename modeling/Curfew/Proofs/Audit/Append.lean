import Curfew.Audit
import Curfew.Proofs.Host.Files

/-! Appending to an audit file. Where a file can be made, all records of a report are written to it, each on a line of
its own, and the host has grown by no more than that. -/

namespace Curfew

/-! ### Fields -/

namespace Json

/-- A field that can be written: its key is a text, and its value has a form. -/
def Writable (entry : Value × Value) : Prop := (∃ name, entry.1 = .text name) ∧ ∃ cs, chars entry.2 = .ok cs

@[simp] theorem writable_text (name s : String) : Writable (.text name, .text s) := ⟨⟨name, rfl⟩, _, rfl⟩

@[simp] theorem writable_int (name : String) (i : Int) : Writable (.text name, .int i) := ⟨⟨name, rfl⟩, _, rfl⟩

@[simp] theorem writable_bool (name : String) (b : Bool) : Writable (.text name, .bool b) :=
  ⟨⟨name, rfl⟩, by cases b <;> exact ⟨_, rfl⟩⟩

theorem entryChars_of_writable : ∀ {entries : List (Value × Value)}, (∀ entry ∈ entries, Writable entry) →
    ∃ cs, entryChars entries = .ok cs
  | [], _ => ⟨[], rfl⟩
  | (key, value) :: entries, hw => by
    obtain ⟨⟨⟨name, rfl⟩, cs, hcs⟩, hrest⟩ := List.forall_mem_cons.mp hw
    obtain ⟨more, hmore⟩ := entryChars_of_writable hrest
    have hvalue : chars value = .ok cs := hcs
    rw [entryChars, hvalue, hmore]
    exact ⟨_, rfl⟩

theorem writable_putBy {isSame : Value → Value → Bool} {key value : Value} (hw : Writable (key, value)) :
    ∀ {entries : List (Value × Value)}, (∀ entry ∈ entries, Writable entry) →
      ∀ entry ∈ Value.putBy isSame key value entries, Writable entry
  | [], _ => by
    rw [Value.putBy]
    exact List.forall_mem_singleton.mpr hw
  | first :: rest, hall => by
    obtain ⟨hfirst, hrest⟩ := List.forall_mem_cons.mp hall
    rw [Value.putBy]
    split
    · exact List.forall_mem_cons.mpr ⟨⟨hfirst.1, hw.2⟩, hrest⟩
    · exact List.forall_mem_cons.mpr ⟨hfirst, writable_putBy hw hrest⟩

/-- Fields that can be written still can once each is put in its place. -/
theorem writable_entriesOf {pairs : List (Value × Value)} (hw : ∀ pair ∈ pairs, Writable pair) :
    ∀ entry ∈ Value.entriesOf pairs, Writable entry := by
  have onto : ∀ (pairs : List (Value × Value)) (entries : Entries), (∀ pair ∈ pairs, Writable pair) →
      (∀ entry ∈ entries, Writable entry) →
      ∀ entry ∈ pairs.foldl (fun entries pair => Value.put pair.1 pair.2 entries) entries, Writable entry := by
    intro pairs
    induction pairs with
    | nil => exact fun entries _ hentries => hentries
    | cons pair pairs ih =>
      intro entries hpairs hentries
      obtain ⟨hpair, hrest⟩ := List.forall_mem_cons.mp hpairs
      exact ih _ hrest (writable_putBy hpair hentries)
  exact onto pairs [] hw (by simp)

end Json

theorem Change.writable_entries (c : Change) : ∀ entry ∈ c.entries, Json.Writable entry := by
  simp [entries]

namespace Audit

theorem writable_completion (root : Path) (report : Report) : ∀ entry ∈ completion root report, Json.Writable entry := by
  simp [completion, Report.summary]

theorem writable_reportRecords (root : Path) (report : Report) :
    ∀ record ∈ reportRecords root report, ∀ entry ∈ record, Json.Writable entry := by
  intro record hr
  rcases List.mem_append.mp hr with hr | hr
  · obtain ⟨c, -, rfl⟩ := List.mem_map.mp hr
    exact c.writable_entries
  · rw [List.mem_singleton.mp hr]
    exact writable_completion root report

/-! ### Lines -/

variable {a : Audit} {stamp : Stamp} {record : Entries}

theorem line_of_writable (a : Audit) (stamp : Stamp) (hw : ∀ entry ∈ record, Json.Writable entry) :
    ∃ cs, a.line stamp record = .ok cs := by
  have hstamped : ∀ entry ∈ a.stamped stamp record, Json.Writable entry :=
    Json.writable_entriesOf (by simpa using hw)
  obtain ⟨cs, hcs⟩ := Json.entryChars_of_writable hstamped
  unfold line
  rw [Json.chars, hcs]
  exact ⟨_, rfl⟩

/-- The bytes of the lines of records. -/
def bytes (a : Audit) (stamp : Stamp) (records : List Entries) : List UInt8 :=
  records.flatMap fun record => ((a.line stamp record).map Text.Utf8.encode).toOption.getD []

theorem bytes_singleton {cs : List Char} (hline : a.line stamp record = .ok cs) :
    a.bytes stamp [record] = Text.Utf8.encode cs := by
  simp [bytes, hline, Except.map, Except.toOption]

theorem bytes_append (a : Audit) (stamp : Stamp) (records more : List Entries) :
    a.bytes stamp (records ++ more) = a.bytes stamp records ++ a.bytes stamp more := by
  simp [bytes]

/-- The line of each record is among those that are written. -/
theorem infix_bytes_of_mem {records : List Entries} (hr : record ∈ records) {cs : List Char}
    (hline : a.line stamp record = .ok cs) : Text.Utf8.encode cs <:+: a.bytes stamp records := by
  obtain ⟨before, after, rfl⟩ := List.append_of_mem hr
  rw [← List.singleton_append, bytes_append, bytes_append, bytes_singleton hline]
  exact ⟨a.bytes stamp before, a.bytes stamp after, by simp⟩

/-! ### Writing -/

variable {h : Host} {l : Location} {attributes : Attributes} {content : List UInt8}

theorem run_writeRecord (stamp : Stamp) (hlook : h.look a.path true = .ok (l, .file attributes content))
    (hw : ∀ entry ∈ record, Json.Writable entry) :
    ∃ h', (a.writeRecord stamp record).run h = .ok () h' ∧ h.Grows h' ∧
      h'.look a.path true = .ok (l, .file attributes (content ++ a.bytes stamp [record])) := by
  obtain ⟨cs, hline⟩ := line_of_writable a stamp hw
  obtain ⟨h', happend, hg, hlook'⟩ := Host.appendFile_found hlook (Text.Utf8.encode cs)
  refine ⟨h', ?_, hg, by rw [bytes_singleton hline]; exact hlook'⟩
  unfold writeRecord onHost
  rw [hline]
  simp only [EStateM.run_bind, EStateM.run_get, happend]
  rfl

/-- Records are written one after the other behind what is in the file. -/
theorem run_writeRecords (stamp : Stamp) (records : List Entries) : ∀ {h : Host} {content : List UInt8},
    h.look a.path true = .ok (l, .file attributes content) →
    (∀ record ∈ records, ∀ entry ∈ record, Json.Writable entry) →
    ∃ h', (records.forM (a.writeRecord stamp)).run h = .ok () h' ∧ h.Grows h' ∧
      h'.look a.path true = .ok (l, .file attributes (content ++ a.bytes stamp records)) := by
  induction records with
  | nil => exact fun {h _} hlook _ => ⟨h, rfl, .refl h, by simpa [bytes] using hlook⟩
  | cons record records ih =>
    intro h content hlook hw
    obtain ⟨hfirst, hrest⟩ := List.forall_mem_cons.mp hw
    obtain ⟨h₁, hrun, hg, hlook₁⟩ := run_writeRecord stamp hlook hfirst
    obtain ⟨h₂, hruns, hg', hlook₂⟩ := ih hlook₁ hrest
    refine ⟨h₂, ?_, hg.trans hg', ?_⟩
    · rw [List.forM_eq_forM, List.forM_cons, EStateM.run_bind, hrun]
      exact hruns
    · rw [← List.singleton_append, bytes_append, ← List.append_assoc]
      exact hlook₂

/-- Where a file can be made, records are written to it, and there is nothing else in it. -/
theorem run_append {records : List Entries} (hc : h.CanMake a.path)
    (hw : ∀ record ∈ records, ∀ entry ∈ record, Json.Writable entry) :
    ∃ h', (a.append records).run h = .ok () h' ∧ h.Grows h' ∧
      h'.content a.path = .ok (a.bytes (.utc h.now) records) := by
  obtain ⟨h₁, directory, name, hparents, hr⟩ := hc
  obtain ⟨h₂, attributes, hopen, hg, hget⟩ := Host.appendFile_missing hr []
  obtain ⟨h₃, hrun, hg', hlook'⟩ := run_writeRecords (.utc h.now) records (hg.look_file hr hget) hw
  refine ⟨h₃, ?_, ((Host.makeParents_grows hparents).trans hg).trans hg', ?_⟩
  · unfold append onHost
    simp only [EStateM.run_bind, EStateM.run_get, hparents, EStateM.run_set, hopen]
    exact hrun
  · rw [List.nil_append] at hlook'
    exact Host.content_eq_ok.mpr ⟨_, attributes, hlook'⟩

end Audit

end Curfew
