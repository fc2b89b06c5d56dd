import Curfew.Proofs.Host.Clocked
import Curfew.Proofs.Host.Entering
import Curfew.Proofs.Host.Files

/-! Files that are written through several paths. Once the file is there, the directories above each of the paths are
there too, so that nothing is made any more, and what is written through one path is seen through all. -/

namespace Curfew

/-! ### Above a path -/

namespace Resolved
variable {disk : Entry} {again : Location → List String → Except SystemError Resolved} {r : Resolved} {more : List String}

/-- Names lead to a directory. -/
def Enters (disk : Entry) (f : Location → List String → Except SystemError Resolved) (here : Location)
    (names : List String) : Prop :=
  ∃ l a children, f here names = .ok (.found l) ∧ disk.get? l = some (.directory a children)

theorem directory_of_turn {here : Location} {name : String} (h : turn disk here name ≠ .fault .notDirectory) :
    ∃ a children, disk.get? here = some (.directory a children) := by
  unfold turn at h
  rcases hd : disk.get? here with _ | (_ | ⟨a, children⟩ | _)
  · simp [hd] at h
  · simp [hd] at h
  · exact ⟨a, children, rfl⟩
  · simp [hd] at h

theorem walk_enters (hmore : more ≠ [])
    (hagain : ∀ here names, again here (names ++ more) = .ok r → Enters disk again here names) :
    ∀ names here, walk disk again true here (names ++ more) = .ok r → Enters disk (walk disk again true) here names
  | [], here, h => by
    cases more with
    | nil => exact absurd rfl hmore
    | cons name more =>
      rw [List.nil_append, walk_cons] at h
      have hturn : turn disk here name ≠ .fault .notDirectory := fun ht => by simp [ht] at h
      obtain ⟨a, children, hd⟩ := directory_of_turn hturn
      exact ⟨here, a, children, rfl, hd⟩
  | name :: names, here, h => by
    rw [List.cons_append, walk_cons] at h
    cases ht : turn disk here name with
    | goOn next =>
      rw [ht] at h
      obtain ⟨l, a, children, hl, hd⟩ := walk_enters hmore hagain names next h
      exact ⟨l, a, children, by rw [walk_cons, ht]; exact hl, hd⟩
    | link target =>
      simp only [ht, Bool.not_true, Bool.and_false, Bool.false_eq_true, ↓reduceIte] at h
      rw [← List.append_assoc] at h
      obtain ⟨l, a, children, hl, hd⟩ := hagain _ _ h
      refine ⟨l, a, children, ?_, hd⟩
      rw [walk_cons, ht]
      simpa using hl
    | free =>
      have hne : (names ++ more).isEmpty = false := by simp [hmore]
      simp [ht, hne] at h
    | fault error => simp [ht] at h

/-- Where a path leads anywhere, all of it but its last names leads to a directory. -/
theorem ofNames_enters (hmore : more ≠ []) (links : Nat) : ∀ here names,
    ofNames disk true links here (names ++ more) = .ok r → Enters disk (ofNames disk true links) here names := by
  induction links with
  | zero => exact fun here names => walk_enters hmore (fun _ _ h => by cases h) names here
  | succ links ih => exact fun here names => walk_enters hmore ih names here

end Resolved

theorem Path.text_parent {p : Path} (h : p.names ≠ []) : p.parent.text = "." ∨ ∃ rest, p.text = p.parent.text ++ rest := by
  obtain ⟨front, last, hnames⟩ : ∃ front last, p.names = front ++ [last] :=
    ⟨_, _, (List.dropLast_concat_getLast h).symm⟩
  cases front with
  | nil =>
    by_cases hroot : p.root = .working
    · exact Or.inl (by simp [text, parent, hnames, hroot])
    · exact Or.inr ⟨last, by simp [text, parent, hnames, hroot]⟩
  | cons first more =>
    refine Or.inr ⟨"/" ++ last, ?_⟩
    have hjoin : String.intercalate "/" (first :: more ++ [last]) = String.intercalate "/" (first :: more) ++ ("/" ++ last) := by
      rw [String.intercalate_append_of_ne_nil (List.cons_ne_nil _ _) (List.cons_ne_nil _ _)]
      simp [String.append_assoc]
    have hfilled : (first :: more ++ [last]).isEmpty = false := rfl
    simp only [text, parent, hnames, hjoin, hfilled, List.dropLast_concat, List.isEmpty_cons, Bool.and_false,
      Bool.false_eq_true, ↓reduceIte, String.append_assoc]

namespace Host
variable {h h' : Host} {p : Path} {l : Location} {a : Attributes} {content : List UInt8}

/-- Above what a path leads to there is a directory. -/
theorem parent_of_resolve {r : Resolved} (hr : h.resolve p true = .ok r) (hne : p.names ≠ []) :
    h.leadsToDirectory p.parent = .ok true ∧ ∃ l, h.locate p.parent false = .ok l := by
  obtain ⟨htext, hfound⟩ := resolve_eq_ok.mp hr
  have hnames : p.parent.names ++ [p.names.getLast hne] = p.names := List.dropLast_concat_getLast hne
  have hchecked : Resolved.checkText p.parent.text = .ok () := by
    rcases Path.text_parent hne with hdot | ⟨rest, hrest⟩
    · rw [hdot]
      rfl
    · rw [hrest] at htext
      exact Resolved.checkText_of_append htext
  rw [← hnames] at hfound
  obtain ⟨top, a, children, htop, hd⟩ := Resolved.ofNames_enters (List.cons_ne_nil _ _) _ _ _ hfound
  obtain ⟨l, hl, -⟩ := Resolved.ofNames_unfollowed _ _ _ htop
  have hlook : h.look p.parent true = .ok (top, .directory a children) :=
    look_eq_ok.mpr ⟨locate_eq_ok.mpr ⟨hchecked, htop⟩, hd⟩
  refine ⟨?_, l, locate_eq_ok.mpr ⟨hchecked, hl⟩⟩
  unfold leadsToDirectory test
  rw [hlook]
  rfl

/-- Where a path leads anywhere, nothing is made above it. -/
theorem makeParents_of_resolve {r : Resolved} (hr : h.resolve p true = .ok r) (hne : p.names ≠ []) :
    h.makeParents p = .ok h := by
  obtain ⟨hdirectory, l, hl⟩ := parent_of_resolve hr hne
  have hthere : h.makeDirectory p.parent = .error (.system .exists p.parent) := by
    unfold makeDirectory
    rw [locate_eq_ok_iff_resolve.mp hl]
    rfl
  have hensure : h.ensureDirectory p.parent = .ok h := by
    unfold ensureDirectory
    rw [hthere]
    simp only [hdirectory]
    rfl
  unfold makeParents
  cases p.names.length with
  | zero => exact hensure
  | succ fuel => rw [makeDirectories, hensure]

/-! ### One file -/

/-- Paths lead to one file that is still to be made: once the directories above any of them are there, all lead to one
free name. -/
structure OneFile (h : Host) (paths : List Path) : Prop where
  absent : ∀ p ∈ paths, ∃ q, h.content p = .error (.system .notFound q)
  free : ∃ directory name, ∀ p ∈ paths, ∃ h', h.makeParents p = .ok h' ∧
    ∀ q ∈ paths, h'.resolve q true = .ok (.missing directory name)

/-- Paths lead to one file that holds these bytes. -/
def SharedFile (h : Host) (paths : List Path) (bytes : List UInt8) : Prop :=
  ∃ l a, ∀ p ∈ paths, p.names ≠ [] ∧ h.look p true = .ok (l, .file a bytes)

variable {paths : List Path} {bytes more : List UInt8}

theorem OneFile.clocked (ho : h.OneFile paths) (zone : Offset) (now : WallTime) : (h.clocked zone now).OneFile paths where
  absent := ho.absent
  free := by
    obtain ⟨directory, name, hfree⟩ := ho.free
    refine ⟨directory, name, fun p hp => ?_⟩
    obtain ⟨h', hmake, hall⟩ := hfree p hp
    refine ⟨h'.clocked zone now, ?_, hall⟩
    rw [makeParents_clocked, hmake]
    rfl

theorem names_ne_nil_of_missing {directory : Location} {name : String} (hr : h.resolve p true = .ok (.missing directory name)) :
    p.names ≠ [] := by
  intro hnil
  have hfound := (resolve_eq_ok.mp hr).2
  rw [hnil] at hfound
  cases hfound

/-- The file is there for all paths once it is made for one. -/
theorem OneFile.exists_shared (ho : h.OneFile paths) (hp : p ∈ paths) :
    ∃ h₁ h₂, h.makeParents p = .ok h₁ ∧ h₁.appendFile p [] = .ok h₂ ∧ h₂.SharedFile paths [] := by
  obtain ⟨directory, name, hfree⟩ := ho.free
  obtain ⟨h₁, hmake, hall⟩ := hfree p hp
  obtain ⟨h₂, a, happend, hg, hget⟩ := appendFile_missing (hall p hp) []
  exact ⟨h₁, h₂, hmake, happend, _, a, fun q hq => ⟨names_ne_nil_of_missing (hall q hq), hg.look_file (hall q hq) hget⟩⟩

namespace SharedFile

theorem content_eq (hs : h.SharedFile paths bytes) (hp : p ∈ paths) : h.content p = .ok bytes := by
  obtain ⟨l, a, hall⟩ := hs
  exact content_eq_ok.mpr ⟨l, a, (hall p hp).2⟩

/-- What was written through one path is there for all. -/
theorem of_grows (hs : h.SharedFile paths bytes) (hg : h.Grows h') (hp : p ∈ paths) {l : Location}
    (hlook : h'.look p true = .ok (l, .file a more)) : h'.SharedFile paths more := by
  obtain ⟨k, b, hall⟩ := hs
  obtain ⟨hl, he⟩ := look_eq_ok.mp hlook
  have hk := hg.locate (look_eq_ok.mp (hall p hp).2).1
  obtain rfl : l = k := Except.ok.inj (hl.symm.trans hk)
  exact ⟨l, a, fun q hq => ⟨(hall q hq).1, look_eq_ok.mpr ⟨hg.locate (look_eq_ok.mp (hall q hq).2).1, he⟩⟩⟩

/-- Nothing is made above a file that is there. -/
theorem makeParents (hs : h.SharedFile paths bytes) (hp : p ∈ paths) : h.makeParents p = .ok h := by
  obtain ⟨l, a, hall⟩ := hs
  obtain ⟨hne, hlook⟩ := hall p hp
  exact makeParents_of_resolve (locate_eq_ok_iff_resolve.mp (look_eq_ok.mp hlook).1) hne

/-- The file is opened as it is. -/
theorem exists_shared (hs : h.SharedFile paths bytes) (hp : p ∈ paths) :
    ∃ h₁ h₂, h.makeParents p = .ok h₁ ∧ h₁.appendFile p [] = .ok h₂ ∧ h₂.SharedFile paths bytes := by
  have hmake := hs.makeParents hp
  obtain ⟨l, a, hall⟩ := id hs
  obtain ⟨h₂, happend, hg, hlook⟩ := appendFile_found (hall p hp).2 []
  rw [List.append_nil] at hlook
  exact ⟨h, h₂, hmake, happend, hs.of_grows hg hp hlook⟩

end SharedFile

end Host

end Curfew
