import Curfew.CommandLine.Program
import Curfew.Proofs.Audit.Append
import Curfew.Proofs.Tree.Build
import Curfew.Proofs.Tree.Runs

/-! The audit trail of a run. The trail is written once all nodes are handled. So it covers all that a finished run
changed, and nothing of what a run changed that was stopped by a fault. -/

namespace Curfew

namespace Audit

/-- The audit file of a host holds the record of a change. -/
def Holds (a : Audit) (h : Host) (c : Change) : Prop :=
  ∃ stamp cs bytes, a.line stamp c.entries = .ok cs ∧ h.content a.path = .ok bytes ∧ Text.Utf8.encode cs <:+: bytes

/-- Each entry that is not seen as before has its record: one of a change at a path that led to it. -/
def Covers (a : Audit) (before after : Host) : Prop :=
  ∀ l i, before.disk.infoAt l = some i → after.disk.infoAt l ≠ some i →
    ∃ c : Change, before.locate c.path false = .ok l ∧ a.Holds after c

variable {a : Audit} {h h' : Host}

/-- Without an audit file nothing but what stayed is covered. -/
theorem covers_iff_of_absent (same : h.SameShape h') (habsent : ∀ bytes, h'.content a.path ≠ .ok bytes) :
    a.Covers h h' ↔ ∀ l, h'.disk.infoAt l = h.disk.infoAt l := by
  constructor
  · intro hcovers l
    cases hi : h.disk.infoAt l with
    | none => exact (same.infoAt_eq_none_iff l).mpr hi
    | some i =>
      by_contra hne
      obtain ⟨c, -, stamp, cs, bytes, -, hcontent, -⟩ := hcovers l i hi hne
      exact habsent bytes hcontent
  · intro hsame l i hi hne
    exact absurd ((hsame l).trans hi) hne

end Audit

namespace CommandLine

/-! ### The steps of a command -/

namespace Acting
variable {ε α : Type} {s : Session}

theorem run_ofExcept (stop : ε → Stop) (x : Except ε α) : (ofExcept stop x).run s =
    match x with
    | .ok a => .ok a s
    | .error fault => .error (stop fault) s := by
  cases x <;> rfl

theorem run_ofTold (stop : ε → Stop) (told : Told ε α) : (ofTold stop told).run s =
    match told.outcome with
    | .ok a => .ok a { s with notices := s.notices ++ told.notices }
    | .error fault => .error (stop fault) { s with notices := s.notices ++ told.notices } := by
  unfold ofTold
  rw [EStateM.run_bind, EStateM.run_modify]
  exact run_ofExcept stop told.outcome

theorem run_apply (t : Tree) (clock : Clock) (isDryRun : Bool) : ∃ notices, (apply t clock isDryRun).run s =
    match (t.apply s.host clock isDryRun).fault with
    | some fault => .error (.tree fault) ⟨(t.apply s.host clock isDryRun).run.host, notices⟩
    | none => .ok (t.apply s.host clock isDryRun).run.report ⟨(t.apply s.host clock isDryRun).run.host, notices⟩ := by
  refine ⟨s.notices ++ (t.apply s.host clock isDryRun).run.notices, ?_⟩
  unfold apply
  simp only [EStateM.run_bind, EStateM.run_get, EStateM.run_set]
  cases (t.apply s.host clock isDryRun).fault <;> rfl

/-- A report is logged where the audit file can be made. -/
theorem run_logReport {a : Audit} (hc : s.host.CanMake a.path) (root : Path) (report : Report) :
    ∃ s', (logReport a root report).run s = .ok () s' ∧ s.host.Grows s'.host ∧
      s'.host.content a.path = .ok (a.bytes (.utc s.host.now) (Audit.reportRecords root report)) := by
  obtain ⟨h', hrun, hg, hcontent⟩ := Audit.run_append hc (Audit.writable_reportRecords root report)
  refine ⟨⟨h', s.notices ++ [a.logged root report]⟩, ?_, hg, hcontent⟩
  have hreport : (a.logReport root report).run s.host = .ok () h' := hrun
  unfold logReport
  simp only [EStateM.run_bind, EStateM.run_get, hreport, EStateM.run_set]

end Acting

namespace Apply
variable {r : Request} {runId : String} {h : Host}

/-- The audit trail that a request asks for. -/
def Request.trail (r : Request) (runId : String) : Audit := { path := .ofText r.auditLog, runId }

/-- A command that keeps an audit trail is stopped before it writes any of it, or writes all once the tree is
applied. -/
theorem run_cases (hdry : r.isDryRun = false) (hlog : r.auditLog.isEmpty = false) (hc : h.CanMake (r.trail runId).path)
    (notices : List Notice) :
    (∃ cause s, (run r runId).run ⟨h, notices⟩ = .error cause s ∧ h.SameShape s.host) ∨
      ∃ report s clock, ∃ t : Tree, (run r runId).run ⟨h, notices⟩ = .ok report s ∧ (t.apply h clock false).fault = none ∧
        (t.apply h clock false).run.host.Grows s.host ∧ s.host.content (r.trail runId).path =
          .ok ((r.trail runId).bytes (.utc h.now) (Audit.reportRecords t.path (t.apply h clock false).run.report)) := by
  unfold run
  simp only [EStateM.run_bind, Acting.host, EStateM.run_get, EStateM.run_pure, Acting.run_ofTold]
  cases (Document.ofFile h r.configPath true).outcome with
  | error fault => exact Or.inl ⟨_, _, rfl, .refl h⟩
  | ok entries =>
    simp only
    cases (Tree.build h (.map entries) (.ofText r.root)).outcome with
    | error fault => exact Or.inl ⟨_, _, rfl, .refl h⟩
    | ok t =>
      simp only [Acting.run_ofExcept]
      cases Clock.freeze h.zone (r.time h) with
      | error fault => exact Or.inl ⟨_, _, rfl, .refl h⟩
      | ok clock =>
        have same : h.SameShape (t.apply h clock false).run.host := Tree.apply_frame.toSameShape
        simp only [hdry, hlog, Bool.not_false, ↓reduceIte, EStateM.run_bind]
        generalize notices ++ _ ++ _ = notices
        obtain ⟨told, happly⟩ := Acting.run_apply (s := ⟨h, notices⟩) t clock false
        rw [happly]
        cases hfault : (t.apply h clock false).fault with
        | some fault => exact Or.inl ⟨_, _, rfl, same⟩
        | none =>
          obtain ⟨s, hrun, hg, hcontent⟩ := Acting.run_logReport (s := ⟨_, told⟩) (same.canMake hc) t.path
            (t.apply h clock false).run.report
          have hnow : (t.apply h clock false).run.host.now = h.now := by rw [same.rest]
          rw [hnow] at hcontent
          refine Or.inr ⟨(t.apply h clock false).run.report, s, clock, t, ?_, hfault, hg, hcontent⟩
          have hlogged : (Acting.logReport { path := .ofText r.auditLog, runId } t.path _).run _ = _ := hrun
          simp only [hlogged]
          rfl

theorem outcome_eq (r : Request) (runId : String) (s : Session) :
    ((outcome r runId s).1.ending.exitCode = 0 ∧ ∃ report, (run r runId).run s = .ok report (outcome r runId s).2) ∨
      ((outcome r runId s).1.ending.exitCode = 1 ∧ ∃ cause, (run r runId).run s = .error cause (outcome r runId s).2) := by
  unfold outcome Acting.outcome
  rw [EStateM.run_bind]
  cases (run r runId).run s with
  | ok report s => exact Or.inl ⟨rfl, report, rfl⟩
  | error cause s =>
    refine Or.inr ?_
    cases hm : message? cause <;> simp [hm, Outcome.refused, Outcome.stopped, Ending.exitCode]

end Apply

/-! ### The command line -/

/-- A line that begins with the name of the command runs it on the other words. -/
theorem run_apply_words {words : List String} {h : Host} {r : Apply.Request} (runId : String)
    (hr : Apply.Request.ofWords h words = .ok r) :
    run runId ("apply" :: words) h = Apply.outcome r runId ⟨h, []⟩ := by
  have hleading : leading ("apply" :: words) = .ok ("apply" :: words) := by
    have hfree : Given.isOption "apply" = false := by decide
    unfold leading
    rw [Given.ofWords, if_neg (by decide), hfree]
    rfl
  unfold run
  rw [hleading]
  simp only [List.isEmpty_cons, Bool.false_eq_true, ↓reduceIte, command?, perform, hr, Option.getD_some]

/-- A run that keeps an audit trail ends in one of two ways. Either nothing stopped it, and its trail covers all that it
changed; or it was stopped and there is no audit file, and so its trail covers what it changed only if that is nothing. -/
theorem trail_covers {words : List String} {h : Host} {r : Apply.Request} (runId : String)
    (hr : Apply.Request.ofWords h words = .ok r) (hdry : r.isDryRun = false) (hlog : r.auditLog.isEmpty = false)
    (hc : h.CanMake (r.trail runId).path) :
    ((run runId ("apply" :: words) h).1.ending.exitCode = 0 ∧
      (r.trail runId).Covers h (run runId ("apply" :: words) h).2.host) ∨
    ((run runId ("apply" :: words) h).1.ending.exitCode = 1 ∧
      (∀ bytes, (run runId ("apply" :: words) h).2.host.content (r.trail runId).path ≠ .ok bytes) ∧
      ((r.trail runId).Covers h (run runId ("apply" :: words) h).2.host ↔
        ∀ l, (run runId ("apply" :: words) h).2.host.disk.infoAt l = h.disk.infoAt l)) := by
  rw [run_apply_words runId hr]
  rcases Apply.outcome_eq r runId ⟨h, []⟩ with ⟨hcode, report, hrun⟩ | ⟨hcode, cause, hrun⟩
  · refine Or.inl ⟨hcode, ?_⟩
    rcases Apply.run_cases hdry hlog hc [] with ⟨_, _, hstopped, -⟩ | ⟨_, s, clock, t, hdone, -, hg, hcontent⟩
    · cases hrun.symm.trans hstopped
    · cases hrun.symm.trans hdone
      intro l i hi hne
      have hchanged : (t.apply h clock false).run.host.disk.infoAt l ≠ h.disk.infoAt l := fun heq =>
        hne (hg.disk.infoAt (heq.trans hi))
      obtain ⟨c, hmem, hlocate⟩ := Tree.apply_recorded hchanged
      obtain ⟨cs, hline⟩ := Audit.line_of_writable (r.trail runId) (.utc h.now) c.writable_entries
      refine ⟨c, hlocate, _, cs, _, hline, hcontent, Audit.infix_bytes_of_mem ?_ hline⟩
      exact List.mem_append_left _ (List.mem_map_of_mem hmem)
  · rcases Apply.run_cases hdry hlog hc [] with ⟨_, s, hstopped, same⟩ | ⟨_, _, _, _, hdone, -⟩
    · cases hrun.symm.trans hstopped
      have habsent := (same.canMake hc).content_ne
      exact Or.inr ⟨hcode, habsent, Audit.covers_iff_of_absent same habsent⟩
    · cases hrun.symm.trans hdone

/-! ### Trails to try -/

namespace Trailed

/-- A course with one file and a config. -/
def host (config : String) : Host :=
  Tree.Trial.host
    [("_watchdog.yml", .file { mode := 0o644, gid := 0 } (Text.Utf8.encode config.toList)), ("notes", Tree.Trial.file 0o644)]
    []

/-- The words of a command with an audit file. -/
def words : List String := ["/course", "--audit-log", "/audit.jsonl"]

/-- A config for the file. -/
def settled : String := "notes:\n  mode: u=rw,go=\n"

/-- A config for the file and for one that is not there. -/
def broken : String := "notes:\n  mode: u=rw,go=\nslides:\n"

end Trailed

theorem trail_covers_course : ∃ r, Apply.Request.ofWords (Trailed.host Trailed.settled) Trailed.words = .ok r ∧
    (r.trail "one").Covers (Trailed.host Trailed.settled)
      (run "one" ("apply" :: Trailed.words) (Trailed.host Trailed.settled)).2.host ∧
    (run "one" ("apply" :: Trailed.words) (Trailed.host Trailed.settled)).2.host.disk.infoAt ["course", "notes"] ≠
      (Trailed.host Trailed.settled).disk.infoAt ["course", "notes"] := by
  obtain ⟨r, hr, hdry, hlog⟩ : ∃ r, Apply.Request.ofWords (Trailed.host Trailed.settled) Trailed.words = .ok r ∧
      r.isDryRun = false ∧ r.auditLog = "/audit.jsonl" := exists_of_ok (by decide +kernel)
  have hc : (Trailed.host Trailed.settled).CanMake (r.trail "one").path := by
    rw [Apply.Request.trail, hlog]
    exact Host.canMake_iff.mpr ⟨[], "audit.jsonl", by decide +kernel⟩
  obtain ⟨hcode, hchanged⟩ :
      (run "one" ("apply" :: Trailed.words) (Trailed.host Trailed.settled)).1.ending.exitCode = 0 ∧
        (run "one" ("apply" :: Trailed.words) (Trailed.host Trailed.settled)).2.host.disk.infoAt ["course", "notes"] ≠
          (Trailed.host Trailed.settled).disk.infoAt ["course", "notes"] := by decide +kernel
  rcases trail_covers "one" hr hdry (by rw [hlog]; decide) hc with ⟨-, hcovers⟩ | ⟨hstopped, -⟩
  · exact ⟨r, hr, hcovers, hchanged⟩
  · rw [hcode] at hstopped
    cases hstopped

/-- The run changes the file and is stopped after that, and there is no record of the change. -/
theorem change_unrecorded : ∃ r, Apply.Request.ofWords (Trailed.host Trailed.broken) Trailed.words = .ok r ∧
    r.isDryRun = false ∧ (Trailed.host Trailed.broken).CanMake (r.trail "one").path ∧
    (run "one" ("apply" :: Trailed.words) (Trailed.host Trailed.broken)).1.ending.exitCode = 1 ∧
    ¬(r.trail "one").Covers (Trailed.host Trailed.broken)
      (run "one" ("apply" :: Trailed.words) (Trailed.host Trailed.broken)).2.host := by
  obtain ⟨r, hr, hdry, hlog⟩ : ∃ r, Apply.Request.ofWords (Trailed.host Trailed.broken) Trailed.words = .ok r ∧
      r.isDryRun = false ∧ r.auditLog = "/audit.jsonl" := exists_of_ok (by decide +kernel)
  obtain ⟨hcode, hthere, hchanged, habsent⟩ :
      (run "one" ("apply" :: Trailed.words) (Trailed.host Trailed.broken)).1.ending.exitCode = 1 ∧
        (Trailed.host Trailed.broken).disk.infoAt ["course", "notes"] =
          some { mode := 0o644, gid := 0, kind := .file } ∧
        (run "one" ("apply" :: Trailed.words) (Trailed.host Trailed.broken)).2.host.disk.infoAt ["course", "notes"] ≠
          some { mode := 0o644, gid := 0, kind := .file } ∧
        ((run "one" ("apply" :: Trailed.words) (Trailed.host Trailed.broken)).2.host.content
          (.ofText "/audit.jsonl")).toOption = none := by decide +kernel
  refine ⟨r, hr, hdry, ?_, hcode, fun hcovers => ?_⟩
  · rw [Apply.Request.trail, hlog]
    exact Host.canMake_iff.mpr ⟨[], "audit.jsonl", by decide +kernel⟩
  · obtain ⟨c, -, _, _, bytes, -, hcontent, -⟩ := hcovers ["course", "notes"] _ hthere hchanged
    rw [Apply.Request.trail, hlog] at hcontent
    rw [hcontent] at habsent
    cases habsent

end CommandLine

end Curfew
