import Curfew.Proofs.Audit.OpenEnd

/-! Whose record it is. Each record is written with the time of its call and the run that made it in front, but a field of
the record that has one of these names stands in its place. -/

namespace Curfew

/-! ### Fields that are read again -/

namespace Json
variable {entries : Entries}

theorem keys_entriesReturned (h : ∀ entry ∈ entries, ∃ name, entry.1 = .text name) :
    (entriesReturned entries).map (·.1) = entries.map (·.1) := by
  induction entries with
  | nil => rfl
  | cons entry entries ih =>
    obtain ⟨⟨name, hname⟩, hrest⟩ := List.forall_mem_cons.mp h
    obtain ⟨key, v⟩ := entry
    obtain rfl : key = .text name := hname
    rw [entriesReturned, keyText_text, List.map_cons, List.map_cons, ih hrest]

theorem field?_entriesReturned (name : String) (h : ∀ entry ∈ entries, ∃ name, entry.1 = .text name) :
    Value.field? name (entriesReturned entries) = (Value.field? name entries).map returned := by
  induction entries with
  | nil => rfl
  | cons entry entries ih =>
    obtain ⟨⟨key, hkey⟩, hrest⟩ := List.forall_mem_cons.mp h
    obtain ⟨k, v⟩ := entry
    obtain rfl : k = .text key := hkey
    rw [entriesReturned, keyText_text, Value.field?_cons, Value.field?_cons, ih hrest]
    split <;> rfl

/-- A mapping whose keys are distinct texts is read with the same keys. -/
theorem returned_map (h : Value.Named entries) : returned (.map entries) = .map (entriesReturned entries) := by
  have hkeys := keys_entriesReturned h.text
  have htext : ∀ entry ∈ entriesReturned entries, ∃ name, entry.1 = .text name := by
    have hold : ∀ key ∈ entries.map (·.1), ∃ name, key = .text name := by simpa using h.text
    rw [← hkeys] at hold
    simpa using hold
  rw [returned, Value.entriesOf_eq_self htext (by rw [hkeys]; exact h.nodup)]

end Json

namespace Audit

open Text

section
variable {a : Audit} {stamp : Stamp} {record : Entries}

/-! ### One record -/

/-- What stands in front of each record: the time of the call and the run. -/
def front (a : Audit) (stamp : Stamp) : Entries := [(.text "timestamp", .text stamp.text), (.text "run_id", .text a.runId)]

theorem named_front (a : Audit) (stamp : Stamp) : Value.Named (a.front stamp) := ⟨by simp [front], by simp [front]⟩

theorem stamped_eq_foldl (a : Audit) (stamp : Stamp) (record : Entries) :
    a.stamped stamp record = record.foldl (fun entries pair => Value.put pair.1 pair.2 entries) (a.front stamp) := by
  have hfront := Value.entriesOf_eq_self (a.named_front stamp).text (a.named_front stamp).nodup
  rw [← hfront]
  rfl

/-- A field of a record that is read is the record's own, and else what stands in front of it. -/
theorem field?_asRead (hrecord : Value.Named record) (a : Audit) (stamp : Stamp) :
    ∃ entries, a.asRead stamp record = .map entries ∧
      ∀ name, Value.field? name entries = ((Value.field? name record).or (Value.field? name (a.front stamp))).map Json.returned := by
  have hstamped := fun name => Value.field?_foldl_put name hrecord (a.named_front stamp)
  simp only [← stamped_eq_foldl] at hstamped
  refine ⟨_, Json.returned_map (hstamped "").1, fun name => ?_⟩
  rw [Json.field?_entriesReturned name (hstamped name).1.text, (hstamped name).2]

/-- A value names this time and this run. -/
def Names (a : Audit) (stamp : Stamp) (v : Value) : Prop :=
  ∃ entries, v = .map entries ∧ Value.field? "timestamp" entries = some (.text stamp.text) ∧
    Value.field? "run_id" entries = some (.text a.runId)

/-- A record has no field of this name, unless it is one that is read as this text. -/
def Allows (record : Entries) (name text : String) : Prop :=
  ∀ v, Value.field? name record = some v → Json.returned v = .text text

theorem field_or_eq_iff {name text : String} : ((Value.field? name record).or (some (.text text))).map Json.returned =
    some (.text text) ↔ Allows record name text := by
  unfold Allows
  cases Value.field? name record <;> simp [Json.returned]

/-- A record that is read names its time and its run just if no field of its own says otherwise. -/
theorem names_asRead_iff (hrecord : Value.Named record) : a.Names stamp (a.asRead stamp record) ↔
    Allows record "timestamp" stamp.text ∧ Allows record "run_id" a.runId := by
  obtain ⟨entries, hread, hfields⟩ := field?_asRead hrecord a stamp
  have htimestamp : Value.field? "timestamp" (a.front stamp) = some (.text stamp.text) := by simp [front, Value.field?_cons]
  have hrun : Value.field? "run_id" (a.front stamp) = some (.text a.runId) := by simp [front, Value.field?_cons]
  rw [← field_or_eq_iff, ← field_or_eq_iff, ← htimestamp, ← hrun, ← hfields, ← hfields, htimestamp, hrun, hread]
  constructor
  · rintro ⟨_, heq, hnames⟩
    cases heq
    exact hnames
  · exact fun hnames => ⟨entries, rfl, hnames⟩

theorem names_asRead_of_recordable (hf : Recordable record) : a.Names stamp (a.asRead stamp record) := by
  rw [asRead_of_recordable hf]
  exact ⟨_, rfl, by simp [Value.field?_cons], by simp [Value.field?_cons]⟩

end

/-! ### Calls -/

section
variable {a : Audit} {h h' : Host} {c : Appending}

/-- The records of a call that returns stand behind what the file held. Those of them that are read name the time of the
call and the run, except for a record that has a field of one of these names with another value; a record of a report has
none. -/
theorem names_returned (hc : ∀ record, c = .one record → Value.Named record) (hrun : (c.perform a).run h = .ok () h') :
    let stamp := Stamp.utc h.now
    ∃ made opened old, a.Opens h made opened old ∧ h'.content a.path = .ok (old ++ a.bytes stamp c.records) ∧
      (∀ vs, (a.readAll h').outcome = .ok vs → ∃ cs, Utf8.decode old = some cs ∧
        vs = heldIn (closed (withLineFeeds cs)) ++ if Json.skipSpace (openEnd (withLineFeeds cs)) = [] then
          c.records.map (a.asRead stamp) else (c.records.map (a.asRead stamp)).tail) ∧
      (∀ record, c = .one record → (a.Names stamp (a.asRead stamp record) ↔
        Allows record "timestamp" stamp.text ∧ Allows record "run_id" a.runId)) ∧
      ∀ root report, c = .all root report → ∀ record ∈ c.records, a.Names stamp (a.asRead stamp record) := by
  intro stamp
  rw [c.perform_eq] at hrun
  obtain ⟨made, opened, old, ho, hlines, hcontent⟩ := append_returned hrun
  refine ⟨made, opened, old, ho, hcontent, fun vs hread => readAll_returned hlines hcontent hread, ?_, ?_⟩
  · exact fun record hrecord => names_asRead_iff (hc record hrecord)
  · rintro root report rfl record hrecord
    exact names_asRead_of_recordable (recordable_reportRecords root report record hrecord)

end

/-! ### A record in another run's name -/

namespace Forged

/-- A record that says it is of another run. -/
def record : Entries := [(.text "run_id", .text "two")]

theorem named_record : Value.Named record := ⟨by simp [record], by simp [record]⟩

theorem field?_record : Value.field? "run_id" record = some (.text "two") := Value.field?_alone _ _

theorem exists_log : ∃ h', ((Appending.one record).perform OpenEnd.audit).run (OpenEnd.host []) = .ok () h' :=
  OpenEnd.exists_perform [] (by simp [Appending.records, record])

end Forged

/-- A record that is logged by one run is read as one of another. -/
theorem run_forged : ∃ h' v, (OpenEnd.audit.log Forged.record).run (OpenEnd.host []) = .ok () h' ∧
    (OpenEnd.audit.readAll h').outcome = .ok [v] ∧ ¬OpenEnd.audit.Names (.utc Policy.epoch.wall) v ∧
    ∃ entries, v = .map entries ∧ Value.field? "run_id" entries = some (.text "two") := by
  obtain ⟨h', hrun⟩ := Forged.exists_log
  have hread := (outcome_readAll_perform (OpenEnd.content_host []) (Utf8.decode_encode []) hrun).2
  obtain ⟨entries, hasRead, hfields⟩ := field?_asRead Forged.named_record OpenEnd.audit (.utc Policy.epoch.wall)
  have hforged : Value.field? "run_id" entries = some (.text "two") := by
    rw [hfields, Forged.field?_record]
    rfl
  refine ⟨h', _, hrun, hread, ?_, entries, hasRead, hforged⟩
  rintro ⟨_, heq, -, hone⟩
  obtain rfl : entries = _ := Value.map.inj (hasRead.symm.trans heq)
  rw [hforged] at hone
  simp [OpenEnd.audit] at hone

theorem names_returned_forged : ∃ h', ((Appending.one Forged.record).perform OpenEnd.audit).run (OpenEnd.host []) = .ok () h' ∧
    (∀ record, Appending.one Forged.record = .one record → Value.Named record) ∧
    ¬OpenEnd.audit.Names (.utc Policy.epoch.wall) (OpenEnd.audit.asRead (.utc Policy.epoch.wall) Forged.record) := by
  obtain ⟨h', hrun⟩ := Forged.exists_log
  have hnamed : ∀ record, Appending.one Forged.record = .one record → Value.Named record := by
    rintro _ ⟨⟩
    exact Forged.named_record
  obtain ⟨-, -, -, -, -, -, hnames, -⟩ := names_returned hnamed hrun
  refine ⟨h', hrun, hnamed, fun h => ?_⟩
  have hallows := ((hnames Forged.record rfl).mp h).2 (.text "two") Forged.field?_record
  simp [Json.returned, OpenEnd.audit] at hallows

end Audit

end Curfew
