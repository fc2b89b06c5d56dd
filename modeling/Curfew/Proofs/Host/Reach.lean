import Curfew.Proofs.Disk.Descent
import Curfew.Proofs.Faults

/-! Where the paths of a host lead. Every operation on one entry first locates its path; a path without
a link above it leads to a location of its own, down from where any path above it leads. -/

namespace Curfew

/-! ### Paths below a path and their texts -/

@[simp] theorem Path.below_nil (p : Path) : p.below [] = p := by simp [Path.below]

@[simp] theorem Path.child_below (p : Path) (name : String) (names : List String) :
    (p.child name).below names = p.below (name :: names) := by simp [Path.child, Path.below]

theorem Path.below_below (p : Path) (names more : List String) : (p.below names).below more = p.below (names ++ more) := by
  simp [Path.below, List.append_assoc]

theorem Path.below_inj {p : Path} {names more : List String} : p.below names = p.below more ↔ names = more := by
  simp [Path.below]

theorem Path.text_below {p : Path} (h : p.root ≠ .working) (names : List String) :
    ∃ rest, (p.below names).text = p.text ++ rest := by
  simp only [Path.text, Path.below, h, decide_false, Bool.false_and, Bool.false_eq_true, ↓reduceIte]
  cases hp : p.names with
  | nil => exact ⟨String.intercalate "/" names, by simp⟩
  | cons first more =>
    cases names with
    | nil => exact ⟨"", by simp⟩
    | cons name names =>
      rw [String.intercalate_append_of_ne_nil (List.cons_ne_nil _ _) (List.cons_ne_nil _ _)]
      exact ⟨"/" ++ String.intercalate "/" (name :: names), by simp only [String.append_assoc]⟩

/-- A text that the system can be asked for begins with texts it can be asked for. -/
theorem Resolved.checkText_of_append {s t : String} (ok : checkText (s ++ t) = .ok ()) : checkText s = .ok () := by
  unfold checkText at ok ⊢
  split at ok
  · cases ok
  · rename_i hbytes
    split at ok
    · cases ok
    · rename_i hnull
      split at ok
      · cases ok
      · rename_i hlong
        simp only [hasBytes, String.toList_append, List.all_append, Bool.not_eq_true, Bool.not_eq_false',
          Bool.and_eq_true] at hbytes
        simp only [String.toList_append, List.contains_eq_mem, List.mem_append, decide_eq_true_eq, not_or]
          at hnull
        simp only [Text.Utf8.size, Text.Utf8.encode, String.toList_append, List.flatMap_append,
          List.length_append] at hlong
        rw [if_neg, if_neg, if_neg]
        · simp only [Text.Utf8.size, Text.Utf8.encode]
          omega
        · simpa using hnull.1
        · simpa [hasBytes] using hbytes.1

/-- A path that the system can be asked for begins with paths it can be asked for. -/
theorem Resolved.checkText_of_below {p : Path} (h : p.root ≠ .working) (names : List String)
    (ok : checkText (p.below names).text = .ok ()) : checkText p.text = .ok () := by
  obtain ⟨rest, htext⟩ := Path.text_below h names
  rw [htext] at ok
  exact checkText_of_append ok

theorem Path.absolute_root (p workingDirectory : Path) (h : workingDirectory.root ≠ .working) :
    (p.absolute workingDirectory).root ≠ .working := by
  unfold Path.absolute Path.join
  by_cases hp : p.root = .working
  · simpa [hp] using h
  · simp [hp]

/-- One path is above another: more names lead from it to the other. -/
def Path.Above (q p : Path) : Prop := ∃ names, names ≠ [] ∧ p = q.below names

theorem Path.Above.length_lt {p q : Path} (h : q.Above p) : q.names.length < p.names.length := by
  obtain ⟨names, hne, rfl⟩ := h
  simp [Path.below, List.length_pos_iff.mpr hne]

theorem Path.Above.ne {p q : Path} (h : q.Above p) : q ≠ p := by
  rintro rfl
  exact Nat.lt_irrefl _ h.length_lt

theorem Path.Above.asymm {p q : Path} (h : q.Above p) : ¬p.Above q := fun h' =>
  Nat.lt_asymm h.length_lt h'.length_lt

namespace Host
variable {h h' : Host} {p : Path} {l : Location}

theorem absolute_root (h : Host) (p : Path) : (h.absolute p).root ≠ .working :=
  p.absolute_root h.workingPath (by simp [workingPath])

/-! ### Locating -/

def start (h : Host) (p : Path) : Location := if p.root = .working then h.workingDirectory else []

theorem resolve_eq_ok {follow : Bool} {r : Resolved} :
    h.resolve p follow = .ok r ↔ Resolved.checkText p.text = .ok () ∧
      Resolved.ofNames h.disk follow Resolved.mostLinks (h.start p) p.names = .ok r := by
  unfold resolve Resolved.ofPath start
  cases Resolved.checkText p.text with
  | error fault => simp [bind, Except.bind]
  | ok u => simp [bind, Except.bind, mapError_eq_ok]

theorem locate_eq_ok_iff_resolve {follow : Bool} : h.locate p follow = .ok l ↔ h.resolve p follow = .ok (.found l) := by
  unfold locate
  rcases h.resolve p follow with _ | (_ | _) <;>
    simp [bind, Except.bind, throw, throwThe, MonadExceptOf.throw, pure, Except.pure]

theorem locate_eq_ok {follow : Bool} :
    h.locate p follow = .ok l ↔ Resolved.checkText p.text = .ok () ∧
      Resolved.ofNames h.disk follow Resolved.mostLinks (h.start p) p.names = .ok (.found l) := by
  rw [locate_eq_ok_iff_resolve, resolve_eq_ok]

theorem look_eq_ok {follow : Bool} {e : Entry} :
    h.look p follow = .ok (l, e) ↔ h.locate p follow = .ok l ∧ h.disk.get? l = some e := by
  unfold look
  rcases h.locate p follow with _ | k
  · simp [bind, Except.bind]
  · simp only [bind, Except.bind, Except.ok.injEq]
    cases hk : h.disk.get? k with
    | none =>
      simp only [throw, throwThe, MonadExceptOf.throw, reduceCtorEq, false_iff, not_and]
      rintro rfl
      simp [hk]
    | some f =>
      simp only [pure, Except.pure, Except.ok.injEq, Prod.mk.injEq]
      constructor
      · rintro ⟨rfl, rfl⟩
        exact ⟨rfl, hk⟩
      · rintro ⟨rfl, hf⟩
        exact ⟨rfl, Option.some.inj (hk.symm.trans hf)⟩

theorem stat_eq_ok {i : EntryInfo} :
    h.stat p = .ok i ↔ ∃ l, h.locate p false = .ok l ∧ h.disk.infoAt l = some i := by
  have unavailable : ∀ x : Except DiskFault EntryInfo, asUnavailable p x = .ok i ↔ x = .ok i := by
    intro x
    unfold asUnavailable
    split <;> simp
  unfold stat Entry.infoAt
  rw [unavailable]
  constructor
  · intro hi
    cases hl : h.look p false with
    | error fault => simp [hl, Except.map] at hi
    | ok found =>
      obtain ⟨l, e⟩ := found
      rw [look_eq_ok] at hl
      simp only [look_eq_ok.mpr hl, Except.map, Except.ok.injEq] at hi
      exact ⟨l, hl.1, by simp [hl.2, hi]⟩
  · rintro ⟨l, hl, hi⟩
    obtain ⟨e, he, rfl⟩ := Option.map_eq_some_iff.mp hi
    simp [look_eq_ok.mpr ⟨hl, he⟩, Except.map]

theorem isLink_eq_true : h.isLink p = .ok true ↔ ∃ l, h.locate p false = .ok l ∧ h.disk.HasLink l := by
  unfold isLink test
  constructor
  · intro hi
    split at hi
    · rename_i l e hl
      rw [look_eq_ok] at hl
      simp only [Except.ok.injEq, isLinkEntry] at hi
      split at hi
      · exact ⟨l, hl.1, _, _, hl.2⟩
      · cases hi
    · cases hi
    · cases hi
  · rintro ⟨l, hl, gid, target, he⟩
    simp [look_eq_ok.mpr ⟨hl, he⟩, isLinkEntry]

/-! ### Hosts of one shape -/

/-- The host is as before but for the modes and groups of entries. -/
structure SameShape (h h' : Host) : Prop where
  rest : h' = { h with disk := h'.disk }
  shape : h'.disk.shape = h.disk.shape

namespace SameShape

theorem refl (h : Host) : SameShape h h := ⟨rfl, rfl⟩

theorem trans {h₁ h₂ h₃ : Host} (h₁₂ : SameShape h₁ h₂) (h₂₃ : SameShape h₂ h₃) : SameShape h₁ h₃ :=
  ⟨by rw [h₂₃.rest, h₁₂.rest], h₂₃.shape.trans h₁₂.shape⟩

theorem resolve (s : SameShape h h') (p : Path) (follow : Bool) : h'.resolve p follow = h.resolve p follow := by
  have start : h'.workingDirectory = h.workingDirectory := by rw [s.rest]
  unfold Host.resolve Resolved.ofPath
  rw [start, Resolved.ofNames_congr s.shape]

theorem locate (s : SameShape h h') (p : Path) (follow : Bool) : h'.locate p follow = h.locate p follow := by
  unfold Host.locate
  rw [s.resolve]

end SameShape

/-! ### Paths without a link above them -/

/-- No path above a path leads to a link. -/
def Unlinked (h : Host) (p : Path) : Prop := ∀ q : Path, q.Above p → h.isLink q ≠ .ok true

theorem unlinked_iff : h.Unlinked p ↔
    ∀ n < p.names.length, h.isLink { p with names := p.names.take n } ≠ .ok true := by
  constructor
  · intro hu n hn
    refine hu _ ⟨p.names.drop n, by simpa using hn, ?_⟩
    simp [Path.below]
  · rintro hu q ⟨names, hne, rfl⟩
    have hlong : q.names.length < (q.below names).names.length := by
      have := List.length_pos_iff.mpr hne
      simp only [Path.below, List.length_append]
      omega
    simpa [Path.below] using hu q.names.length hlong

instance (h : Host) (p : Path) : Decidable (h.Unlinked p) :=
  have : DecidablePred fun x : Except DiskFault Bool => x ≠ .ok true := fun x =>
    decidable_of_iff (x.toOption ≠ some true) (by cases x <;> simp [Except.toOption])
  decidable_of_iff' _ unlinked_iff

/-- A path below another leads down from where the other leads, unless a link stands at the other or on
the way down. -/
theorem locate_below (hp : p.root ≠ .working) {names : List String} (hne : names ≠ [])
    (hdots : ∀ name ∈ names, name ≠ "." ∧ name ≠ "..") (hl : h.locate (p.below names) false = .ok l) :
    ∃ top, h.locate p false = .ok top ∧ (l = top ++ names ∨ ∃ above below, names = above ++ below ∧ below ≠ [] ∧
      h.locate (p.below above) false = .ok (top ++ above) ∧ h.disk.HasLink (top ++ above)) := by
  obtain ⟨htext, hfound⟩ := locate_eq_ok.mp hl
  have hstart : ∀ more, h.start (p.below more) = h.start p := fun _ => rfl
  rw [hstart] at hfound
  obtain ⟨top, htop, hon⟩ := Resolved.ofNames_passes hne _ _ _ hfound
  have hlocate : h.locate p false = .ok top := locate_eq_ok.mpr ⟨Resolved.checkText_of_below hp names htext, htop⟩
  refine ⟨top, hlocate, ?_⟩
  rcases hon with hlink | ⟨links, hon⟩
  · refine Or.inr ⟨[], names, rfl, hne, ?_, by simpa using hlink⟩
    simpa [Path.below] using hlocate
  · rw [show (p.below names).names = p.names ++ names from rfl, hon names hne] at hfound
    -- From there it is a plain walk, however many links may still be followed.
    have hwalk : ∃ again, ∀ more, Resolved.ofNames h.disk false links top more =
        Resolved.walk h.disk again false top more := by
      cases links with
      | zero => exact ⟨_, fun _ => rfl⟩
      | succ links => exact ⟨_, fun _ => rfl⟩
    obtain ⟨again, hwalk⟩ := hwalk
    rw [hwalk] at hfound
    rcases Resolved.walk_down names top hdots hfound with h' | ⟨above, below, rfl, hbelow, hlink, hup⟩
    · exact Or.inl h'
    · refine Or.inr ⟨above, below, rfl, hbelow, ?_, hlink⟩
      by_cases ha : above = []
      · subst ha
        simpa [Path.below] using hlocate
      · refine locate_eq_ok.mpr ⟨?_, ?_⟩
        · have hroot : (p.below above).root ≠ .working := hp
          refine Resolved.checkText_of_below hroot below ?_
          simpa [Path.below] using htext
        · rw [hstart, show (p.below above).names = p.names ++ above from rfl, hon above ha, hwalk, hup]

theorem Unlinked.locate_below {names : List String} (hu : h.Unlinked (p.below names)) (hp : p.root ≠ .working)
    (hne : names ≠ []) (hdots : ∀ name ∈ names, name ≠ "." ∧ name ≠ "..")
    (hl : h.locate (p.below names) false = .ok l) :
    ∃ top, h.locate p false = .ok top ∧ l = top ++ names := by
  obtain ⟨top, htop, h' | ⟨above, below, rfl, hbelow, hup, hlink⟩⟩ := Host.locate_below hp hne hdots hl
  · exact ⟨top, htop, h'⟩
  · refine absurd (isLink_eq_true.mpr ⟨_, hup, hlink⟩) (hu _ ⟨below, hbelow, ?_⟩)
    simp [Path.below]

end Host

end Curfew
