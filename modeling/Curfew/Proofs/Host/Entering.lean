import Curfew.Proofs.Disk.Descendants
import Curfew.Proofs.Host.Reach

/-! Going down into directories. A path of one more name leads to the entry under that name of the directory that the
path leads to, if the system can be asked for it; links above it make no difference. -/

namespace Curfew

namespace Resolved
variable {disk : Entry} {l : Location}

/-! ### Going on behind a path -/

theorem walk_on (again : Bool → Location → List String → Except SystemError Resolved)
    (hends : ∃ links, ∀ follow, ofNames disk follow links = walk disk (again follow) follow)
    (hagain : ∀ here names, again true here names = .ok (.found l) → ∃ links, ∀ follow more, more ≠ [] →
      again follow here (names ++ more) = ofNames disk follow links l more) :
    ∀ names here, walk disk (again true) true here names = .ok (.found l) → ∃ links, ∀ follow more, more ≠ [] →
      walk disk (again follow) follow here (names ++ more) = ofNames disk follow links l more
  | [], here, h => by
    cases h
    obtain ⟨links, hlinks⟩ := hends
    exact ⟨links, fun follow more _ => by rw [hlinks]; rfl⟩
  | name :: rest, here, h => by
    rw [walk_cons] at h
    cases ht : turn disk here name with
    | goOn next =>
      rw [ht] at h
      obtain ⟨links, hon⟩ := walk_on again hends hagain rest next h
      refine ⟨links, fun follow more hmore => ?_⟩
      rw [List.cons_append, walk_cons, ht]
      exact hon follow more hmore
    | link target =>
      simp only [ht, Bool.not_true, Bool.and_false, Bool.false_eq_true, ↓reduceIte] at h
      obtain ⟨links, hon⟩ := hagain _ _ h
      refine ⟨links, fun follow more hmore => ?_⟩
      have hrest : (rest ++ more).isEmpty = false := by simp [hmore]
      rw [List.cons_append, walk_cons, ht, ← hon follow more hmore]
      simp [hrest]
    | free =>
      rw [ht] at h
      simp only at h
      split at h <;> cases h
    | fault error => simp [ht] at h

/-- Names behind a path are looked up from where the path leads, its last link followed. -/
theorem ofNames_on (links : Nat) : ∀ here names, ofNames disk true links here names = .ok (.found l) →
    ∃ links', ∀ follow more, more ≠ [] →
      ofNames disk follow links here (names ++ more) = ofNames disk follow links' l more := by
  induction links with
  | zero =>
    exact fun here names => walk_on (fun _ _ _ => .error .tooManyLinks) ⟨0, fun _ => rfl⟩
      (fun _ _ h => by cases h) names here
  | succ links ih =>
    exact fun here names => walk_on (fun follow => ofNames disk follow links) ⟨links + 1, fun _ => rfl⟩ ih
      names here

theorem walk_unfollowed {again again' : Location → List String → Except SystemError Resolved}
    (hagain : ∀ here names, again here names = .ok (.found l) →
      ∃ l', again' here names = .ok (.found l') ∧ (l' = l ∨ disk.HasLink l')) :
    ∀ names here, walk disk again true here names = .ok (.found l) →
      ∃ l', walk disk again' false here names = .ok (.found l') ∧ (l' = l ∨ disk.HasLink l')
  | [], here, h => by
    cases h
    exact ⟨l, rfl, Or.inl rfl⟩
  | name :: rest, here, h => by
    rw [walk_cons] at h
    cases ht : turn disk here name with
    | goOn next =>
      rw [ht] at h
      obtain ⟨l', hl', hor⟩ := walk_unfollowed hagain rest next h
      exact ⟨l', by rw [walk_cons, ht]; exact hl', hor⟩
    | link target =>
      cases rest with
      | nil => exact ⟨here ++ [name], by rw [walk_cons, ht]; rfl, Or.inr (hasLink_of_turn ht)⟩
      | cons next rest =>
        simp only [ht, List.isEmpty_cons, Bool.false_and, Bool.false_eq_true, ↓reduceIte] at h
        obtain ⟨l', hl', hor⟩ := hagain _ _ h
        exact ⟨l', by rw [walk_cons, ht]; exact hl', hor⟩
    | free =>
      rw [ht] at h
      simp only at h
      split at h <;> cases h
    | fault error => simp [ht] at h

/-- A path that leads somewhere leads there as well if its last link is not followed, or to that link. -/
theorem ofNames_unfollowed (links : Nat) : ∀ here names, ofNames disk true links here names = .ok (.found l) →
    ∃ l', ofNames disk false links here names = .ok (.found l') ∧ (l' = l ∨ disk.HasLink l') := by
  induction links with
  | zero => exact fun here names => walk_unfollowed (fun _ _ h => by cases h) names here
  | succ links ih => exact fun here names => walk_unfollowed ih names here

/-! ### One name -/

/-- A text that may stand in a path, however long it is. -/
def CanBeAsked (text : String) : Prop := hasBytes text = true ∧ '\x00' ∉ text.toList

instance (text : String) : Decidable (CanBeAsked text) := inferInstanceAs (Decidable (_ ∧ _))

theorem canBeAsked_append {s t : String} : CanBeAsked (s ++ t) ↔ CanBeAsked s ∧ CanBeAsked t := by
  simp only [CanBeAsked, hasBytes, String.toList_append, List.all_append, Bool.and_eq_true, List.mem_append, not_or]
  exact and_and_and_comm

theorem canBeAsked_of_checkText {text : String} (h : checkText text = .ok ()) : CanBeAsked text := by
  unfold checkText at h
  split at h
  · cases h
  · rename_i hbytes
    split at h
    · cases h
    · rename_i hnull
      exact ⟨by simpa using hbytes, by simpa using hnull⟩

/-- Only its length can be wrong with such a text. -/
theorem checkText_of_canBeAsked {text : String} (h : CanBeAsked text) :
    checkText text = .ok () ∨ checkText text = .error (.system .nameTooLong (.ofText text)) := by
  unfold checkText
  rw [if_neg (by simp [h.1]), if_neg (by simpa using h.2)]
  split
  · exact Or.inr rfl
  · exact Or.inl rfl

theorem tooLong_of_checkText {text : String} {q : Path} (h : checkText text = .error (.system .nameTooLong q)) :
    longestPath < Text.Utf8.size text := by
  unfold checkText at h
  split at h
  · cases h
  · split at h
    · cases h
    · split at h
      · assumption
      · cases h

/-- What a name that is no dot leads to from a directory. -/
inductive Step (disk : Entry) (l : Location) (children : List (String × Entry)) (name : String) : Prop
  | tooLong : longestName < Text.Utf8.size name → turn disk l name = .fault .nameTooLong → Step disk l children name
  | free : children.lookup name = none → turn disk l name = .free → Step disk l children name
  | link (gid : Nat) (target : String) : children.lookup name = some (.link gid target) → turn disk l name = .link target →
    Step disk l children name
  | down (e : Entry) : children.lookup name = some e → Host.isLinkEntry e = false → turn disk l name = .goOn (l ++ [name]) →
    Step disk l children name

variable {a : Attributes} {children : List (String × Entry)} {name : String}

theorem step_of_directory (hd : disk.get? l = some (.directory a children)) (hname : name ≠ "." ∧ name ≠ "..") :
    Step disk l children name := by
  by_cases hlong : longestName < Text.Utf8.size name
  · refine .tooLong hlong ?_
    unfold turn
    simp only [hd, hname.1, hname.2, hlong, ↓reduceIte]
  · cases hchild : children.lookup name with
    | none =>
      refine .free hchild ?_
      unfold turn
      simp only [hd, hname.1, hname.2, hlong, ↓reduceIte, hchild]
    | some e =>
      cases e with
      | link gid target =>
        refine .link gid target hchild ?_
        unfold turn
        simp only [hd, hname.1, hname.2, hlong, ↓reduceIte, hchild]
      | _ =>
        refine .down _ hchild rfl ?_
        unfold turn
        simp only [hd, hname.1, hname.2, hlong, ↓reduceIte, hchild]

theorem ofNames_eq_walk (disk : Entry) (links : Nat) (follow : Bool) :
    ∃ again, ofNames disk follow links = walk disk again follow := by
  cases links <;> exact ⟨_, rfl⟩

/-- From a directory a name leads to the entry under it, unless the name is too long. -/
theorem ofNames_child {e : Entry} (hd : disk.get? l = some (.directory a children)) (he : children.lookup name = some e)
    (hname : name ≠ "." ∧ name ≠ "..") (links : Nat) (follow : Bool) (hfollow : follow = false ∨ Host.isLinkEntry e = false) :
    ofNames disk follow links l [name] = .error .nameTooLong ∨
      ofNames disk follow links l [name] = .ok (.found (l ++ [name])) := by
  obtain ⟨again, hwalk⟩ := ofNames_eq_walk disk links follow
  rw [hwalk, walk_cons]
  cases step_of_directory hd hname with
  | tooLong _ hturn =>
    rw [hturn]
    exact Or.inl rfl
  | free hfree => cases he.symm.trans hfree
  | link gid target hchild hturn =>
    obtain rfl := Option.some.inj (he.symm.trans hchild)
    obtain rfl : follow = false := hfollow.resolve_right (by simp [Host.isLinkEntry])
    rw [hturn]
    exact Or.inr rfl
  | down _ _ _ hturn =>
    rw [hturn]
    exact Or.inr rfl

end Resolved

theorem Path.text_child {p : Path} (h : p.root ≠ .working) (name : String) :
    (p.child name).text = p.text ++ name ∨ (p.child name).text = p.text ++ ("/" ++ name) := by
  simp only [Path.text, Path.child, h, decide_false, Bool.false_and, Bool.false_eq_true, ↓reduceIte]
  cases hp : p.names with
  | nil => exact Or.inl (by simp)
  | cons first more =>
    refine Or.inr ?_
    rw [String.intercalate_append_of_ne_nil (List.cons_ne_nil _ _) (List.cons_ne_nil _ _)]
    simp [String.append_assoc]

namespace Entry

/-- Every name on the disk may stand in a path: it is made of bytes, none of them null. -/
def Spelled (disk : Entry) : Prop := ∀ found ∈ disk.descendants, ∀ name ∈ found.1, Resolved.CanBeAsked name

instance (disk : Entry) : Decidable disk.Spelled := inferInstanceAs (Decidable (∀ found ∈ _, _))

theorem Spelled.canBeAsked {disk e : Entry} (hs : disk.Spelled) : ∀ {l : Location}, disk.get? l = some e →
    ∀ name ∈ l, Resolved.CanBeAsked name
  | [], _ => by simp
  | _ :: _, he => hs _ (mem_descendants_of_get? he)

end Entry

namespace Host
variable {h : Host} {p : Path} {l : Location} {a : Attributes} {children : List (String × Entry)} {e : Entry}
  {name : String} {b : Bool}

theorem canBeAsked_child (hp : p.root ≠ .working) (ht : Resolved.CanBeAsked p.text) (hname : Resolved.CanBeAsked name) :
    Resolved.CanBeAsked (p.child name).text := by
  rcases Path.text_child hp name with htext | htext
  · rw [htext, Resolved.canBeAsked_append]
    exact ⟨ht, hname⟩
  · rw [htext, Resolved.canBeAsked_append, Resolved.canBeAsked_append]
    exact ⟨ht, by decide, hname⟩

/-- A test that is no fault was made on a path that is not too long. -/
theorem locate_ne_tooLong {follow : Bool} {f : Entry → Bool} (ht : h.test p follow f = .ok b) (q : Path) :
    h.locate p follow ≠ .error (.system .nameTooLong q) := by
  intro hl
  unfold test look at ht
  rw [hl] at ht
  cases ht

theorem isDirectory_eq_ok (hb : h.isDirectory p = .ok b) : ∃ b', h.leadsToDirectory p = .ok b' ∧
    ∃ b'', h.isLink p = .ok b'' ∧ b = (b' && !b'') := by
  unfold isDirectory at hb
  cases hd : h.leadsToDirectory p with
  | error fault => simp [hd, bind, Except.bind] at hb
  | ok b' =>
    cases hi : h.isLink p with
    | error fault => simp [hd, hi, bind, Except.bind] at hb
    | ok b'' =>
      simp only [hd, hi, bind, Except.bind] at hb
      exact ⟨b', rfl, b'', rfl, (Except.ok.inj hb).symm⟩

theorem children_eq_ok {children : List (String × Entry)} :
    h.children p = .ok children ↔ ∃ l a, h.look p true = .ok (l, .directory a children) := by
  unfold Host.children
  rw [bind_eq_ok]
  constructor
  · rintro ⟨⟨l, e⟩, hl, hc⟩
    cases e with
    | directory a entries =>
      cases hc
      exact ⟨l, a, hl⟩
    | file => cases hc
    | link => cases hc
  · rintro ⟨l, a, hl⟩
    exact ⟨_, hl, rfl⟩

/-- A path of one more name leads to the entry under the name, if it was seen whether that is a directory. -/
theorem locate_child (hp : p.root ≠ .working) (hl : h.locate p true = .ok l)
    (hd : h.disk.get? l = some (.directory a children)) (he : children.lookup name = some e)
    (hname : name ≠ "." ∧ name ≠ "..") (hask : Resolved.CanBeAsked name) (hb : h.isDirectory (p.child name) = .ok b) :
    h.locate (p.child name) false = .ok (l ++ [name]) ∧
      (isLinkEntry e = false → h.locate (p.child name) true = .ok (l ++ [name])) := by
  obtain ⟨htext, hfound⟩ := locate_eq_ok.mp hl
  obtain ⟨links, hon⟩ := Resolved.ofNames_on _ _ _ hfound
  have hasked : Resolved.CanBeAsked (p.child name).text :=
    canBeAsked_child hp (Resolved.canBeAsked_of_checkText htext) hask
  obtain ⟨_, hdirectory, _, hlink, -⟩ := isDirectory_eq_ok hb
  have child : ∀ follow, (∀ q, h.locate (p.child name) follow ≠ .error (.system .nameTooLong q)) →
      (follow = false ∨ isLinkEntry e = false) → h.locate (p.child name) follow = .ok (l ++ [name]) := by
    intro follow hshort hfollow
    have hchecked : Resolved.checkText (p.child name).text = .ok () := by
      refine (Resolved.checkText_of_canBeAsked hasked).resolve_right fun hlong => hshort (.ofText (p.child name).text) ?_
      unfold locate resolve Resolved.ofPath
      rw [hlong]
      rfl
    have hnames : Resolved.ofNames h.disk follow Resolved.mostLinks (h.start (p.child name)) (p.child name).names =
        Resolved.ofNames h.disk follow links l [name] := hon follow [name] (by simp)
    refine locate_eq_ok.mpr ⟨hchecked, hnames.trans ?_⟩
    refine (Resolved.ofNames_child hd he hname links follow hfollow).resolve_left fun hlong => hshort (p.child name) ?_
    unfold locate resolve Resolved.ofPath
    rw [hchecked]
    simp only [bind, Except.bind]
    rw [show (if (p.child name).root = .working then h.workingDirectory else []) = h.start (p.child name) from rfl,
      hnames, hlong]
    rfl
  exact ⟨child false (locate_ne_tooLong hlink) (Or.inl rfl), fun he' => child true (locate_ne_tooLong hdirectory) (Or.inr he')⟩

/-- A directory is gone down into where its path leads, be its last link followed or not. -/
theorem directory_of_isDirectory (hb : h.isDirectory p = .ok true) : ∃ l a children, h.locate p true = .ok l ∧
    h.locate p false = .ok l ∧ h.disk.get? l = some (.directory a children) := by
  obtain ⟨b', hdirectory, b'', hlink, hboth⟩ := isDirectory_eq_ok hb
  obtain ⟨rfl, rfl⟩ : b' = true ∧ b'' = false := by
    cases b' <;> cases b'' <;> simp at hboth ⊢
  unfold leadsToDirectory test at hdirectory
  split at hdirectory
  · rename_i l e hlook
    obtain ⟨hl, he⟩ := look_eq_ok.mp hlook
    cases e with
    | directory a children =>
      obtain ⟨htext, hfound⟩ := locate_eq_ok.mp hl
      obtain ⟨l', hl', hor⟩ := Resolved.ofNames_unfollowed _ _ _ hfound
      have hlocate : h.locate p false = .ok l' := locate_eq_ok.mpr ⟨htext, hl'⟩
      rcases hor with rfl | hhas
      · exact ⟨l', a, children, hl, hlocate, he⟩
      · rw [isLink_eq_true.mpr ⟨l', hlocate, hhas⟩] at hlink
        cases hlink
    | file => cases hdirectory
    | link => cases hdirectory
  · cases hdirectory
  · cases hdirectory

/-- Whether an entry is a directory is seen at a path that leads to it. -/
theorem isDirectory_of_locate (hl : h.locate p true = .ok l) (hd : h.disk.get? l = some (.directory a children))
    (hb : h.isDirectory p = .ok b) (hl' : h.locate p false = .ok l) : b = true := by
  obtain ⟨b', hdirectory, b'', hlink, rfl⟩ := isDirectory_eq_ok hb
  have hlook := look_eq_ok.mpr ⟨hl, hd⟩
  have hlook' := look_eq_ok.mpr ⟨hl', hd⟩
  unfold leadsToDirectory test at hdirectory
  unfold isLink test at hlink
  rw [hlook] at hdirectory
  rw [hlook'] at hlink
  cases hdirectory
  cases hlink
  rfl

end Host

end Curfew
