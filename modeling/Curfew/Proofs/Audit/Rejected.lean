import Curfew.Proofs.Audit.Identity
import Curfew.Proofs.Host.Making
import Curfew.Proofs.Json.Refusal

/-! Records that are rejected. A record is encoded as a whole before any of it is written, so a record with a key that no
object can have leaves the file as it was opened. Only what had to be made to open it stays. -/

namespace Curfew
namespace Audit

open Text

section
variable {a : Audit} {stamp : Stamp} {record : Entries} {h h' made opened : Host} {old : List UInt8}

/-! ### Which records -/

theorem text_of_mem_front {entry : Value × Value} (hentry : entry ∈ a.front stamp) :
    (∃ name, entry.1 = .text name) ∧ ¬Json.Refused entry.2 := by
  have hcases : entry = (.text "timestamp", .text stamp.text) ∨ entry = (.text "run_id", .text a.runId) := by
    simpa [front] using hentry
  rcases hcases with rfl | rfl
  · exact ⟨⟨_, rfl⟩, Json.not_refused_text _⟩
  · exact ⟨⟨_, rfl⟩, Json.not_refused_text _⟩

/-- The time and the run in front of a record make no difference. -/
theorem refused_stamped (hdistinct : Value.Distinct record) (a : Audit) (stamp : Stamp) :
    Json.Refused (.map (a.stamped stamp record)) ↔ Json.Refused (.map record) := by
  rw [stamped_eq_foldl, Json.refused_map, Json.refused_map]
  constructor
  · rintro ⟨entry, hentry, hbad⟩
    rcases Value.of_mem_foldl_put hentry with hfront | ⟨⟨p, hp, hv⟩, hkey⟩
    · obtain ⟨⟨name, hname⟩, hfine⟩ := text_of_mem_front hfront
      rw [hname] at hbad
      rcases hbad with hbad | hbad
      · cases hbad
      · exact absurd hbad hfine
    · rcases hbad with hbad | hbad
      · rcases hkey with ⟨q, hq, hkey⟩ | ⟨q, hq, hkey⟩
        · exact ⟨q, hq, Or.inl (hkey ▸ hbad)⟩
        · obtain ⟨⟨name, hname⟩, -⟩ := text_of_mem_front hq
          rw [hkey, hname] at hbad
          cases hbad
      · exact ⟨p, hp, Or.inr (hv ▸ hbad)⟩
  · rintro ⟨entry, hentry, hbad⟩
    refine ⟨entry, Value.mem_foldl_put hdistinct (fun e he p _ hsame => ?_) entry hentry, hbad⟩
    obtain ⟨⟨name, hname⟩, -⟩ := text_of_mem_front he
    rw [hname] at hsame ⊢
    exact (Value.same_of_text hsame).symm

/-! ### What is read of the file -/

/-- Whatever is read of the file is the same on both hosts, with the same notices. -/
structure ReadsAlike (a : Audit) (h h' : Host) : Prop where
  readAll : a.readAll h' = a.readAll h
  count : a.count h' = a.count h
  query : ∀ filters, a.query filters h' = a.query filters h

theorem readsAlike_of_content (hc : a.content h' = a.content h) : a.ReadsAlike h h' := by
  have hselect : ∀ choice, a.select choice h' = a.select choice h := by
    intro choice
    unfold select
    rw [hc]
  have hread : a.readAll h' = a.readAll h := hselect _
  refine ⟨hread, ?_, fun filters => hselect _⟩
  unfold count
  rw [hread]

/-- A file that is opened holds what it held, and nothing if it was not there. -/
theorem Opens.content_eq (ho : a.Opens h made opened old) : a.content opened = a.content made := by
  obtain ⟨l, attributes, held, hlook, hbefore⟩ := Host.appendFile_inv ho.file
  rw [List.append_nil] at hlook
  have hopened := Host.content_eq_ok.mpr ⟨l, attributes, hlook⟩
  unfold content
  rcases hbefore with hlook | ⟨rfl, directory, name, hr⟩
  · rw [hopened, Host.content_eq_ok.mpr ⟨l, attributes, hlook⟩]
  · rw [hopened, Host.content_of_missing hr]

/-- Making the directories above the file makes no difference to what it holds, unless its path leads back out of them. -/
theorem Opens.content_before (ho : a.Opens h made opened old)
    (hbefore : (∃ bytes, h.content a.path = .ok bytes) ∨ a.path.Dotless) : a.content made = a.content h := by
  rcases hbefore with ⟨bytes, hbytes⟩ | hdotless
  · rw [(ho.of_content hbytes).1]
  · rcases Host.makeParents_inv hdotless ho.parents ho.file with rfl | ⟨hmissing, hmissing'⟩
    · rfl
    · unfold content
      rw [hmissing, hmissing']

/-! ### Calls -/

theorem Opens.run_log (ho : a.Opens h made opened old) (record : Entries) :
    (a.log record).run h = (a.writeRecord (.utc h.now) record).run opened := by
  unfold log
  rw [ho.run_append, List.forM_eq_forM, List.forM_cons, EStateM.run_bind]
  cases (a.writeRecord (.utc h.now) record).run opened <;> rfl

theorem line_eq_error_iff (hdistinct : Value.Distinct record) :
    (∃ key, a.line stamp record = .error key) ↔ Json.Refused (.map record) := by
  rw [← refused_stamped hdistinct a stamp, ← Json.chars_eq_error_iff]
  unfold line
  cases Json.chars (.map (a.stamped stamp record)) <;> simp [bind, Except.bind, pure, Except.pure]

/-- A record without a line is not written. -/
theorem Opens.run_log_of_error (ho : a.Opens h made opened old) {key : Json.BadKey}
    (hline : a.line (.utc h.now) record = .error key) : (a.log record).run h = .error (.badKey key) opened := by
  rw [ho.run_log]
  unfold writeRecord
  rw [hline]
  rfl

theorem Opens.run_log_of_line (ho : a.Opens h made opened old) (hline : a.HasLine (.utc h.now) record) :
    ∃ h', (a.log record).run h = .ok () h' ∧
      h'.content a.path = .ok (old ++ Utf8.encode (a.body (.utc h.now) record ++ ['\n'])) := by
  obtain ⟨l, attributes, hlook⟩ := Host.content_eq_ok.mp ho.holds
  obtain ⟨h', happend, -, hlook'⟩ := Host.appendFile_found hlook (Utf8.encode (a.body (.utc h.now) record ++ ['\n']))
  refine ⟨h', ?_, Host.content_eq_ok.mpr ⟨l, attributes, hlook'⟩⟩
  rw [ho.run_log]
  unfold writeRecord onHost
  rw [hline.line_eq]
  simp only [EStateM.run_bind, EStateM.run_get, happend]
  rfl

/-- Where the file can be opened, a record is rejected just if somewhere in it stands a mapping with a key that no object can
have. Then the file is left as it was opened: all is read as if only the directories above it had been made, and so as
before the call if the file was there or no dots stand in its path. Else a line of plain characters is written, which has
its end and no other line break. -/
theorem log_rejected_iff (hdistinct : Value.Distinct record) (ho : a.Opens h made opened old) :
    ((∃ fault h', (a.log record).run h = .error fault h') ↔ Json.Refused (.map record)) ∧
      (∀ fault h', (a.log record).run h = .error fault h' → (∃ key, fault = .badKey key) ∧ h' = opened ∧
        a.ReadsAlike made h' ∧
        ((∃ bytes, h.content a.path = .ok bytes) ∨ a.path.Dotless → a.ReadsAlike h h')) ∧
      ∀ h', (a.log record).run h = .ok () h' → ∃ body, Json.Plain body ∧
        h'.content a.path = .ok (old ++ Utf8.encode (body ++ ['\n'])) := by
  rw [← line_eq_error_iff hdistinct]
  cases hline : a.line (.utc h.now) record with
  | error key =>
    have hrun := ho.run_log_of_error hline
    refine ⟨by simp [hrun], fun fault h' hfault => ?_, fun h' hok => ?_⟩
    · obtain ⟨rfl, rfl⟩ : AuditFault.badKey key = fault ∧ opened = h' := by simpa [hrun] using hfault
      refine ⟨⟨key, rfl⟩, rfl, readsAlike_of_content ho.content_eq, fun hbefore => ?_⟩
      exact readsAlike_of_content (ho.content_eq.trans (ho.content_before hbefore))
    · rw [hrun] at hok
      cases hok
  | ok cs =>
    have hhas : a.HasLine (.utc h.now) record := ⟨cs, hline⟩
    obtain ⟨k, hrun, hcontent⟩ := ho.run_log_of_line hhas
    refine ⟨by simp [hrun], fun fault h' hfault => ?_, fun h' hok => ?_⟩
    · rw [hrun] at hfault
      cases hfault
    · obtain rfl : k = h' := by simpa [hrun] using hok
      exact ⟨_, Json.plain_chars hhas.chars_eq, hcontent⟩

end

/-! ### Out of a directory that is made -/

namespace Detour

/-- A path that leads into a directory that is not there and out of it again, to a file that is there. -/
def audit : Audit := { path := ⟨.working, ["a", "..", "audit.jsonl"]⟩, runId := "one" }

/-- A host with one record in the file. -/
def host : Host := OpenEnd.host OpenEnd.unended

/-- A record with a mapping in it that has a day as a key. -/
def record : Entries := [(.text "deadlines", .map [(.time (.day ⟨741255, by decide⟩), .text "notes")])]

theorem content_host : host.content audit.path = .error (.system .notFound audit.path) := by decide

theorem distinct_record : Value.Distinct record := List.pairwise_singleton _ _

theorem refused_record : Json.Refused (.map record) := by
  refine Json.refused_map.mpr ⟨_, List.mem_cons_self, Or.inr (Json.refused_map.mpr ⟨_, List.mem_cons_self, Or.inl rfl⟩)⟩

end Detour

/-- What is decided of the host with the directories made, when the file can be opened. -/
theorem exists_opens_of {a : Audit} {h : Host} {P : Host → Prop} [DecidablePred P]
    (hx : (h.makeParents a.path).toOption.any (fun made => (made.appendFile a.path []).toOption.isSome ∧ P made) = true) :
    ∃ made opened old, a.Opens h made opened old ∧ P made := by
  obtain ⟨made, hmade, hopens, hP⟩ := exists_of_ok hx
  obtain ⟨opened, hopened⟩ := Option.isSome_iff_exists.mp hopens
  obtain ⟨old, ho⟩ := exists_opens hmade (toOption_eq_some.mp hopened)
  exact ⟨made, opened, old, ho, hP⟩

/-- A record is rejected, and the file that could not be read before can be read afterwards. -/
theorem rejected_seen : Json.Refused (.map Detour.record) ∧ ∃ fault h' v,
    (Detour.audit.log Detour.record).run Detour.host = .error fault h' ∧
      (Detour.audit.readAll Detour.host).outcome = .ok [] ∧ (Detour.audit.readAll h').outcome = .ok [v] := by
  obtain ⟨made, opened, old, ho, hread⟩ : ∃ made opened old, Detour.audit.Opens Detour.host made opened old ∧
      (Detour.audit.readAll made).outcome.toOption.any (fun vs => vs.length = 1) = true := exists_opens_of (by decide +kernel)
  obtain ⟨vs, hvs, hlength⟩ := exists_of_ok hread
  obtain ⟨v, rfl⟩ := List.length_eq_one_iff.mp hlength
  have hnone : (Detour.audit.readAll Detour.host).outcome = .ok [] :=
    readAll_of_holdsText (holdsText_of_absent Detour.content_host)
  obtain ⟨key, hline⟩ := (line_eq_error_iff Detour.distinct_record).mpr Detour.refused_record
  refine ⟨Detour.refused_record, _, _, v, ho.run_log_of_error hline, hnone, ?_⟩
  rw [(readsAlike_of_content ho.content_eq).readAll, hvs]

theorem log_rejected_iff_detour : ∃ made opened old, Value.Distinct Detour.record ∧
    OpenEnd.audit.Opens Detour.host made opened old ∧ ∃ fault h', (OpenEnd.audit.log Detour.record).run Detour.host = .error fault h' ∧
      OpenEnd.audit.ReadsAlike Detour.host h' := by
  obtain ⟨made, opened, old, ho, -⟩ : ∃ made opened old, OpenEnd.audit.Opens Detour.host made opened old ∧ True :=
    exists_opens_of (by decide)
  obtain ⟨hrejected, hleft, -⟩ := log_rejected_iff Detour.distinct_record ho
  obtain ⟨fault, h', hrun⟩ := hrejected.mpr Detour.refused_record
  obtain ⟨-, -, -, hbefore⟩ := hleft fault h' hrun
  exact ⟨made, opened, old, Detour.distinct_record, ho, fault, h', hrun, hbefore (Or.inr (by decide))⟩

end Audit

end Curfew
