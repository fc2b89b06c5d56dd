import Curfew.Proofs.Audit.Append
import Curfew.Proofs.Host.Sharing

/-! Audit files that are opened for a call. Before anything is written the directories above the file are made and the
file itself, if they are missing, and what a call writes stands behind what the file holds by then. -/

namespace Curfew

namespace Host
variable {h h' : Host} {p : Path} {l : Location} {a : Attributes} {bytes content : List UInt8}

/-- Nothing is made above a file that is there. -/
theorem makeParents_of_look (hlook : h.look p true = .ok (l, .file a content)) (hm : h.makeParents p = .ok h') : h' = h := by
  have hr := locate_eq_ok_iff_resolve.mp (look_eq_ok.mp hlook).1
  by_cases hnames : p.names = []
  · have hparent : p.parent = p := by
      obtain ⟨root, names⟩ := p
      obtain rfl : names = [] := hnames
      rfl
    have hself : h.resolve p false = .ok (.found l) := by
      obtain ⟨htext, hfound⟩ := resolve_eq_ok.mp hr
      refine resolve_eq_ok.mpr ⟨htext, ?_⟩
      rw [hnames] at hfound ⊢
      exact hfound
    have hfile : h.leadsToDirectory p = .ok false := by
      unfold leadsToDirectory test
      rw [hlook]
      rfl
    unfold makeParents at hm
    rw [hnames, hparent, List.length_nil, makeDirectories, ensureDirectory, makeDirectory, hself] at hm
    simp only [hfile, bind, Except.bind, throw, throwThe, MonadExceptOf.throw] at hm
    cases hm
  · exact (Except.ok.inj ((makeParents_of_resolve hr hnames).symm.trans hm)).symm

/-- What is written to a path stands at the end of the file there, which was there before or is made. -/
theorem appendFile_inv (happend : h.appendFile p bytes = .ok h') : ∃ l a old, h'.look p true = .ok (l, .file a (old ++ bytes)) ∧
    (h.look p true = .ok (l, .file a old) ∨ (old = [] ∧ ∃ directory name, h.resolve p true = .ok (.missing directory name))) := by
  have hopens := happend
  unfold appendFile at hopens
  obtain ⟨r, hr, hopens⟩ := bind_eq_ok.mp hopens
  cases r with
  | missing directory name =>
    obtain ⟨k, a, hk, hg, hget⟩ := appendFile_missing hr bytes
    obtain rfl : k = h' := Except.ok.inj (hk.symm.trans happend)
    exact ⟨_, a, [], hg.look_file hr hget, Or.inr ⟨rfl, directory, name, hr⟩⟩
  | found l =>
    dsimp only at hopens
    split at hopens
    · rename_i a old hget
      have hlook : h.look p true = .ok (l, .file a old) := look_eq_ok.mpr ⟨locate_eq_ok_iff_resolve.mpr hr, hget⟩
      obtain ⟨k, hk, -, hlook'⟩ := appendFile_found hlook bytes
      obtain rfl : k = h' := Except.ok.inj (hk.symm.trans happend)
      exact ⟨l, a, old, hlook', Or.inl hlook⟩
    · cases hopens

end Host

namespace Audit

open Text

/-! ### Records -/

section
variable {a : Audit} {h h' made opened : Host} {l : Location} {attributes : Attributes} {old : List UInt8} {stamp : Stamp}
  {record : Entries} {records : List Entries}

/-- A record that has a line. -/
def HasLine (a : Audit) (stamp : Stamp) (record : Entries) : Prop := ∃ cs, a.line stamp record = .ok cs

theorem onHost_inv {f : Host → Except DiskFault Host} (hrun : (onHost f).run h = .ok () h') : f h = .ok h' := by
  unfold onHost at hrun
  rw [EStateM.run_bind, EStateM.run_get] at hrun
  dsimp only at hrun
  cases hf : f h with
  | error fault =>
    rw [hf] at hrun
    cases hrun
  | ok k =>
    rw [hf] at hrun
    cases hrun
    rfl

theorem bind_inv {x y : Writing Unit} (hrun : (do x; y : Writing Unit).run h = .ok () h') :
    ∃ k, x.run h = .ok () k ∧ y.run k = .ok () h' := by
  rw [EStateM.run_bind] at hrun
  cases hx : x.run h with
  | error fault k =>
    rw [hx] at hrun
    cases hrun
  | ok u k =>
    rw [hx] at hrun
    exact ⟨k, rfl, hrun⟩

/-- A record that was written has a line, and its bytes stand behind what was in the file. -/
theorem writeRecord_inv (hlook : h.look a.path true = .ok (l, .file attributes old))
    (hrun : (a.writeRecord stamp record).run h = .ok () h') : a.HasLine stamp record ∧
      h'.look a.path true = .ok (l, .file attributes (old ++ a.bytes stamp [record])) := by
  unfold writeRecord at hrun
  cases hline : a.line stamp record with
  | error key =>
    rw [hline] at hrun
    cases hrun
  | ok cs =>
    rw [hline] at hrun
    obtain ⟨k, hk, -, hlook'⟩ := Host.appendFile_found hlook (Utf8.encode cs)
    obtain rfl : k = h' := Except.ok.inj (hk.symm.trans (onHost_inv hrun))
    exact ⟨⟨cs, hline⟩, by rwa [bytes_singleton hline]⟩

theorem writeRecords_inv : ∀ {records : List Entries} {h : Host} {old : List UInt8},
    h.look a.path true = .ok (l, .file attributes old) → (records.forM (a.writeRecord stamp)).run h = .ok () h' →
      (∀ record ∈ records, a.HasLine stamp record) ∧
        h'.look a.path true = .ok (l, .file attributes (old ++ a.bytes stamp records)) := by
  intro records
  induction records with
  | nil =>
    intro h old hlook hrun
    cases hrun
    exact ⟨by simp, by simpa [bytes] using hlook⟩
  | cons record records ih =>
    intro h old hlook hrun
    rw [List.forM_eq_forM, List.forM_cons] at hrun
    obtain ⟨k, hfirst, hrest⟩ := bind_inv hrun
    obtain ⟨hline, hlook'⟩ := writeRecord_inv hlook hfirst
    obtain ⟨hlines, hlook''⟩ := ih hlook' hrest
    refine ⟨List.forall_mem_cons.mpr ⟨hline, hlines⟩, ?_⟩
    rwa [← List.singleton_append, bytes_append, ← List.append_assoc]

/-! ### Calls -/

/-- The file is open: the directories above it were made if need be, and then the file, which holds these bytes. -/
structure Opens (a : Audit) (h made opened : Host) (old : List UInt8) : Prop where
  parents : h.makeParents a.path = .ok made
  file : made.appendFile a.path [] = .ok opened
  holds : opened.content a.path = .ok old

theorem exists_opens (hmade : h.makeParents a.path = .ok made) (hopened : made.appendFile a.path [] = .ok opened) :
    ∃ old, a.Opens h made opened old := by
  obtain ⟨l, attributes, old, hlook, -⟩ := Host.appendFile_inv hopened
  rw [List.append_nil] at hlook
  exact ⟨old, hmade, hopened, Host.content_eq_ok.mpr ⟨l, attributes, hlook⟩⟩

/-- A file that was there holds what it held, and nothing is made above it. -/
theorem Opens.of_content (ho : a.Opens h made opened old) {bytes : List UInt8} (hbytes : h.content a.path = .ok bytes) :
    made = h ∧ old = bytes := by
  obtain ⟨l, attributes, hlook⟩ := Host.content_eq_ok.mp hbytes
  obtain rfl := Host.makeParents_of_look hlook ho.parents
  obtain ⟨k, hk, -, hlook'⟩ := Host.appendFile_found hlook []
  obtain rfl : k = opened := Except.ok.inj (hk.symm.trans ho.file)
  rw [List.append_nil] at hlook'
  exact ⟨rfl, Except.ok.inj (ho.holds.symm.trans (Host.content_eq_ok.mpr ⟨l, attributes, hlook'⟩))⟩

/-- What is appended is written to the open file. -/
theorem Opens.run_append (ho : a.Opens h made opened old) (records : List Entries) :
    (a.append records).run h = (records.forM (a.writeRecord (.utc h.now))).run opened := by
  have hparents := ho.parents
  have hfile := ho.file
  unfold append onHost
  simp only [EStateM.run_bind, EStateM.run_get, hparents, EStateM.run_set, hfile]

/-- A call that returns has opened the file. Each of its records has a line, and the lines stand behind what the file
held. -/
theorem append_returned (hrun : (a.append records).run h = .ok () h') : ∃ made opened old, a.Opens h made opened old ∧
    (∀ record ∈ records, a.HasLine (.utc h.now) record) ∧ h'.content a.path = .ok (old ++ a.bytes (.utc h.now) records) := by
  have hsteps := hrun
  unfold append at hsteps
  rw [EStateM.run_bind, EStateM.run_get] at hsteps
  obtain ⟨made, hmade, hsteps⟩ := bind_inv hsteps
  obtain ⟨opened, hopened, -⟩ := bind_inv hsteps
  obtain ⟨old, ho⟩ := exists_opens (onHost_inv hmade) (onHost_inv hopened)
  rw [ho.run_append] at hrun
  obtain ⟨l, attributes, hlook⟩ := Host.content_eq_ok.mp ho.holds
  obtain ⟨hlines, hlook'⟩ := writeRecords_inv hlook hrun
  exact ⟨made, opened, old, ho, hlines, Host.content_eq_ok.mpr ⟨l, attributes, hlook'⟩⟩

/-- When records were appended to a file that was there, each of them has a line, and the lines stand behind what was in
the file. -/
theorem append_inv (hold : h.content a.path = .ok old) (hrun : (a.append records).run h = .ok () h') :
    (∀ record ∈ records, a.HasLine (.utc h.now) record) ∧
      h'.content a.path = .ok (old ++ a.bytes (.utc h.now) records) := by
  obtain ⟨made, opened, bytes, ho, hlines, hcontent⟩ := append_returned hrun
  obtain ⟨-, rfl⟩ := ho.of_content hold
  exact ⟨hlines, hcontent⟩

/-- Records that can be written are appended to a file that is there. -/
theorem exists_append (hnames : a.path.names ≠ []) (hlook : h.look a.path true = .ok (l, .file attributes old))
    (hw : ∀ record ∈ records, ∀ entry ∈ record, Json.Writable entry) : ∃ h', (a.append records).run h = .ok () h' := by
  have hmade := Host.makeParents_of_resolve (Host.locate_eq_ok_iff_resolve.mp (Host.look_eq_ok.mp hlook).1) hnames
  obtain ⟨opened, hopened, -, hlook'⟩ := Host.appendFile_found hlook []
  obtain ⟨bytes, ho⟩ := exists_opens hmade hopened
  obtain ⟨h', hrun, -, -⟩ := run_writeRecords (.utc h.now) records hlook' hw
  refine ⟨h', ?_⟩
  rw [ho.run_append]
  exact hrun

end

end Audit

end Curfew
