import Curfew.Proofs.Host.Entering

/-! The way along a path. Names are followed one by one and links are replaced by their targets, and what a path comes to is
told by the place where its way ends. -/

namespace Curfew
namespace Resolved

/-- Following names from a location one comes to a location with these names still to go, through so many links. The last
name is followed through a link only if asked for. -/
inductive Way (disk : Entry) (follow : Bool) : Nat → Location → List String → Location → List String → Prop
  | here (l : Location) (names : List String) : Way disk follow 0 l names l names
  | enter {links : Nat} {here next l : Location} {name : String} {rest names : List String} :
    turn disk here name = .goOn next → Way disk follow links next rest l names → Way disk follow links here (name :: rest) l names
  | link {links : Nat} {here l : Location} {name target : String} {rest names : List String} :
    turn disk here name = .link target → (rest ≠ [] ∨ follow = true) →
    Way disk follow links (targetStart here target) (targetNames target ++ rest) l names →
    Way disk follow (links + 1) here (name :: rest) l names

variable {disk : Entry} {follow : Bool} {links n : Nat} {here next l : Location} {name target : String}
  {rest names more : List String} {error : SystemError} {r : Except SystemError Resolved}

/-! ### One name -/

theorem ofNames_nil (disk : Entry) (follow : Bool) (links : Nat) (here : Location) :
    ofNames disk follow links here [] = .ok (.found here) := by
  cases links <;> rfl

theorem ofNames_goOn (ht : turn disk here name = .goOn next) :
    ofNames disk follow links here (name :: rest) = ofNames disk follow links next rest := by
  cases links <;> rw [ofNames, walk_cons, ht]

theorem ofNames_free (ht : turn disk here name = .free) : ofNames disk follow links here (name :: rest) =
    if rest = [] then .ok (.missing here name) else .error .notFound := by
  cases links <;> rw [ofNames, walk_cons, ht] <;> simp only [List.isEmpty_iff]

theorem ofNames_fault (ht : turn disk here name = .fault error) :
    ofNames disk follow links here (name :: rest) = .error error := by
  cases links <;> rw [ofNames, walk_cons, ht]

theorem ofNames_lastLink (ht : turn disk here name = .link target) :
    ofNames disk false links here [name] = .ok (.found (here ++ [name])) := by
  cases links <;> rw [ofNames, walk_cons, ht] <;> rfl

theorem followed_iff : (rest.isEmpty && !follow) = false ↔ rest ≠ [] ∨ follow = true := by
  cases rest <;> cases follow <;> simp

theorem ofNames_link (ht : turn disk here name = .link target) (hon : rest ≠ [] ∨ follow = true) :
    ofNames disk follow (links + 1) here (name :: rest) =
      ofNames disk follow links (targetStart here target) (targetNames target ++ rest) := by
  rw [ofNames, walk_cons, ht]
  simp only [followed_iff.mpr hon, Bool.false_eq_true, ↓reduceIte]

theorem ofNames_noLinkLeft (ht : turn disk here name = .link target) (hon : rest ≠ [] ∨ follow = true) :
    ofNames disk follow 0 here (name :: rest) = .error .tooManyLinks := by
  rw [ofNames, walk_cons, ht]
  simp only [followed_iff.mpr hon, Bool.false_eq_true, ↓reduceIte]

/-! ### Along the way -/

namespace Way

/-- What a path comes to is what the names come to that are still to go, with the links that are left. -/
theorem ofNames_eq (hw : Way disk follow n here names l more) : ∀ links,
    ofNames disk follow (links + n) here names = ofNames disk follow links l more := by
  induction hw with
  | here l names => exact fun links => rfl
  | enter ht _ ih => exact fun links => (ofNames_goOn ht).trans (ih links)
  | link ht hon _ ih => exact fun links => (ofNames_link ht hon).trans (ih links)

/-- With more names behind them the names are followed as far as before. -/
theorem append (hw : Way disk follow n here names l more) {extra : List String} (hextra : extra ≠ []) (follow' : Bool) :
    Way disk follow' n here (names ++ extra) l (more ++ extra) := by
  induction hw with
  | here l names => exact .here l _
  | enter ht _ ih => exact .enter ht ih
  | link ht _ _ ih =>
    rw [List.append_assoc] at ih
    exact .link ht (Or.inl (List.append_ne_nil_of_right_ne_nil _ hextra)) ih

end Way

/-! ### The end of the way -/

/-- Where the way ends: all names were followed, or the next one cannot be. -/
inductive Stop (disk : Entry) (follow : Bool) (left : Nat) : Location → List String → Except SystemError Resolved → Prop
  | done (l : Location) : Stop disk follow left l [] (.ok (.found l))
  | lastLink {l : Location} {name target : String} : follow = false → turn disk l name = .link target →
    Stop disk follow left l [name] (.ok (.found (l ++ [name])))
  | free {l : Location} {name : String} (rest : List String) : turn disk l name = .free →
    Stop disk follow left l (name :: rest) (if rest = [] then .ok (.missing l name) else .error .notFound)
  | fault {l : Location} {name : String} {error : SystemError} (rest : List String) : turn disk l name = .fault error →
    Stop disk follow left l (name :: rest) (.error error)
  | noLinkLeft {l : Location} {name target : String} {rest : List String} : left = 0 → turn disk l name = .link target →
    (rest ≠ [] ∨ follow = true) → Stop disk follow left l (name :: rest) (.error .tooManyLinks)

theorem Stop.ofNames_eq (hs : Stop disk follow links l names r) : ofNames disk follow links l names = r := by
  cases hs with
  | done => exact ofNames_nil disk follow links l
  | lastLink hfollow ht =>
    subst hfollow
    exact ofNames_lastLink ht
  | free rest ht => exact ofNames_free ht
  | fault rest ht => exact ofNames_fault ht
  | noLinkLeft hleft ht hon =>
    subst hleft
    exact ofNames_noLinkLeft ht hon

/-- The way along names ends, with as many links left as were not followed. -/
def Stops (disk : Entry) (follow : Bool) (links : Nat) (here : Location) (names : List String)
    (r : Except SystemError Resolved) : Prop :=
  ∃ n left l more, links = left + n ∧ Way disk follow n here names l more ∧ Stop disk follow left l more r

theorem Stop.stops (hs : Stop disk follow links here names r) : Stops disk follow links here names r :=
  ⟨0, links, here, names, rfl, .here here names, hs⟩

/-- The way ends if it does from each link on. -/
theorem stops_of_links (hlinks : ∀ {here name target rest}, turn disk here name = .link target → (rest ≠ [] ∨ follow = true) →
      Stops disk follow links here (name :: rest) (ofNames disk follow links here (name :: rest))) :
    ∀ names here, Stops disk follow links here names (ofNames disk follow links here names)
  | [], here => by
    rw [ofNames_nil]
    exact (Stop.done here).stops
  | name :: rest, here => by
    cases ht : turn disk here name with
    | goOn next =>
      rw [ofNames_goOn ht]
      obtain ⟨n, left, l, more, heq, hw, hs⟩ := stops_of_links hlinks rest next
      exact ⟨n, left, l, more, heq, .enter ht hw, hs⟩
    | link target =>
      by_cases hon : rest ≠ [] ∨ follow = true
      · exact hlinks ht hon
      · obtain ⟨rfl, rfl⟩ : rest = [] ∧ follow = false := by simpa [not_or] using hon
        rw [ofNames_lastLink ht]
        exact (Stop.lastLink rfl ht).stops
    | free =>
      rw [ofNames_free ht]
      exact (Stop.free rest ht).stops
    | fault error =>
      rw [ofNames_fault ht]
      exact (Stop.fault rest ht).stops

theorem stops (disk : Entry) (follow : Bool) (links : Nat) : ∀ names here,
    Stops disk follow links here names (ofNames disk follow links here names) := by
  induction links with
  | zero =>
    refine stops_of_links fun ht hon => ?_
    rw [ofNames_noLinkLeft ht hon]
    exact (Stop.noLinkLeft rfl ht hon).stops
  | succ links ih =>
    refine stops_of_links fun {here name target rest} ht hon => ?_
    rw [ofNames_link ht hon]
    obtain ⟨n, left, l, more, heq, hw, hs⟩ := ih (targetNames target ++ rest) (targetStart here target)
    exact ⟨n + 1, left, l, more, by omega, .link ht hon hw, hs⟩

/-- What a path comes to is told by where its way ends. -/
theorem ofNames_eq_iff : ofNames disk follow links here names = r ↔ Stops disk follow links here names r := by
  constructor
  · rintro rfl
    exact stops disk follow links names here
  · rintro ⟨n, left, l, more, rfl, hw, hs⟩
    rw [hw.ofNames_eq, hs.ofNames_eq]

/-! ### What there is at the end -/

/-- From anything but a directory no name leads on. -/
theorem turn_of_not_directory (h : ∀ a children, disk.get? l ≠ some (.directory a children)) (name : String) :
    turn disk l name = .fault .notDirectory := by
  unfold turn
  rcases hd : disk.get? l with _ | (_ | ⟨a, children⟩ | _)
  · rfl
  · rfl
  · exact absurd hd (h a children)
  · rfl

section
variable {a : Attributes} {children : List (String × Entry)}

/-- Dots lead on from every directory. -/
theorem turn_dots (hd : disk.get? l = some (.directory a children)) (hname : ¬(name ≠ "." ∧ name ≠ "..")) :
    ∃ next, turn disk l name = .goOn next := by
  unfold turn
  rw [hd]
  by_cases hdot : name = "."
  · exact ⟨l, by simp [hdot]⟩
  · have hup : name = ".." := by simpa [hdot] using hname
    exact ⟨l.dropLast, by simp [hup]⟩

theorem turn_of_tooLong (hd : disk.get? l = some (.directory a children)) (hdots : name ≠ "." ∧ name ≠ "..")
    (hlong : longestName < Text.Utf8.size name) : turn disk l name = .fault .nameTooLong := by
  unfold turn
  simp only [hd, hdots.1, hdots.2, hlong, ↓reduceIte]

end

theorem turn_eq_free : turn disk l name = .free ↔ (name ≠ "." ∧ name ≠ "..") ∧ ¬longestName < Text.Utf8.size name ∧
    ∃ a children, disk.get? l = some (.directory a children) ∧ children.lookup name = none := by
  constructor
  · intro ht
    by_cases hd : ∃ a children, disk.get? l = some (.directory a children)
    · obtain ⟨a, children, hd⟩ := hd
      by_cases hdots : name ≠ "." ∧ name ≠ ".."
      · refine ⟨hdots, fun hlong => ?_, a, children, hd, ?_⟩
        · cases ht.symm.trans (turn_of_tooLong hd hdots hlong)
        · cases step_of_directory hd hdots with
          | free hfree => exact hfree
          | tooLong _ h | link _ _ _ h | down _ _ _ h => cases ht.symm.trans h
      · obtain ⟨next, h⟩ := turn_dots hd hdots
        cases ht.symm.trans h
    · cases ht.symm.trans (turn_of_not_directory (fun a children h => hd ⟨a, children, h⟩) name)
  · rintro ⟨hdots, hshort, a, children, hd, hfree⟩
    cases step_of_directory hd hdots with
    | free _ h => exact h
    | tooLong hlong => exact absurd hlong hshort
    | link _ _ h | down _ h => cases hfree.symm.trans h

theorem turn_eq_fault : turn disk l name = .fault error ↔
    (error = .notDirectory ∧ ∀ a children, disk.get? l ≠ some (.directory a children)) ∨
    (error = .nameTooLong ∧ (name ≠ "." ∧ name ≠ "..") ∧ longestName < Text.Utf8.size name ∧
      ∃ a children, disk.get? l = some (.directory a children)) := by
  constructor
  · intro ht
    by_cases hd : ∃ a children, disk.get? l = some (.directory a children)
    · obtain ⟨a, children, hd⟩ := hd
      by_cases hdots : name ≠ "." ∧ name ≠ ".."
      · cases step_of_directory hd hdots with
        | tooLong hlong h =>
          cases ht.symm.trans h
          exact Or.inr ⟨rfl, hdots, hlong, a, children, hd⟩
        | free _ h | link _ _ _ h | down _ _ _ h => cases ht.symm.trans h
      · obtain ⟨next, h⟩ := turn_dots hd hdots
        cases ht.symm.trans h
    · have hnone : ∀ a children, disk.get? l ≠ some (.directory a children) := fun a children h => hd ⟨a, children, h⟩
      cases ht.symm.trans (turn_of_not_directory hnone name)
      exact Or.inl ⟨rfl, hnone⟩
  · rintro (⟨rfl, hnone⟩ | ⟨rfl, hdots, hlong, a, children, hd⟩)
    · exact turn_of_not_directory hnone name
    · exact turn_of_tooLong hd hdots hlong

/-- Above an entry there are entries. -/
theorem exists_entry_dropLast (h : ∃ e, disk.get? l = some e) : ∃ e, disk.get? l.dropLast = some e := by
  by_cases hl : l = []
  · subst hl
    exact ⟨disk, rfl⟩
  · obtain ⟨e, he⟩ := h
    rw [← List.dropLast_concat_getLast hl, Entry.get?_append] at he
    exact (Option.bind_eq_some_iff.mp he).imp fun above h => h.1

theorem exists_entry_of_goOn (ht : turn disk here name = .goOn next) : ∃ e, disk.get? next = some e := by
  by_cases hd : ∃ a children, disk.get? here = some (.directory a children)
  · obtain ⟨a, children, hd⟩ := hd
    by_cases hdots : name ≠ "." ∧ name ≠ ".."
    · cases step_of_directory hd hdots with
      | down e hchild _ h =>
        cases ht.symm.trans h
        exact ⟨e, by simp [Entry.get?_append, hd, Entry.get?, hchild]⟩
      | tooLong _ h | free _ h | link _ _ _ h => cases ht.symm.trans h
    · have hhere : ∃ e, disk.get? here = some e := ⟨_, hd⟩
      unfold turn at ht
      simp only [hd] at ht
      by_cases hdot : name = "."
      · simp only [hdot, ↓reduceIte, Turn.goOn.injEq] at ht
        exact ht ▸ hhere
      · have hup : name = ".." := by simpa [hdot] using hdots
        simp only [hup, String.reduceEq, ↓reduceIte, Turn.goOn.injEq] at ht
        exact ht ▸ exists_entry_dropLast hhere
  · cases ht.symm.trans (turn_of_not_directory (fun a children h => hd ⟨a, children, h⟩) name)

/-- Where the way begins at an entry, there is one all along. -/
theorem Way.exists_entry (hw : Way disk follow n here names l more) (hhere : ∃ e, disk.get? here = some e) :
    ∃ e, disk.get? l = some e := by
  induction hw with
  | here => exact hhere
  | enter ht _ ih => exact ih (exists_entry_of_goOn ht)
  | link _ _ _ ih =>
    refine ih ?_
    unfold targetStart
    split
    · exact ⟨disk, rfl⟩
    · exact hhere

end Resolved

end Curfew
