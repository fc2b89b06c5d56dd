import Curfew.Proofs.Disk.Descent

/-! Disks that grow. A new entry under a free name and more content in a file leave all else as it was. What a path
led to before it still leads to, and a path that led to the free name leads to the new entry. -/

namespace Curfew

/-- Where a path leads, be something there or not. -/
def Resolved.location : Resolved → Location
  | .found l => l
  | .missing directory name => directory ++ [name]

namespace Entry

/-! ### What is seen from outside -/

/-- The entry without its content and without all entries below it. -/
def bare : Entry → Entry
  | .file a _ => .file a []
  | .directory a _ => .directory a []
  | .link gid target => .link gid target

/-- What is seen at a location from outside. -/
def bareAt (disk : Entry) (l : Location) : Option Entry := (disk.get? l).map bare

theorem info_bare (e : Entry) : e.bare.info = e.info := by cases e <;> rfl

theorem infoAt_eq_map_bareAt (disk : Entry) (l : Location) : disk.infoAt l = (disk.bareAt l).map info := by
  unfold infoAt bareAt
  rw [Option.map_map]
  exact congrArg (fun f => (disk.get? l).map f) (funext fun e => (info_bare e).symm)

/-- All that is on one disk is on another. -/
def Grows (disk disk' : Entry) : Prop := ∀ l e, disk.bareAt l = some e → disk'.bareAt l = some e

namespace Grows
variable {disk disk' disk'' : Entry}

theorem refl (disk : Entry) : disk.Grows disk := fun _ _ => id

theorem trans (h₁ : disk.Grows disk') (h₂ : disk'.Grows disk'') : disk.Grows disk'' := fun l e he => h₂ l e (h₁ l e he)

theorem infoAt (hg : disk.Grows disk') {l : Location} {i : EntryInfo} (hi : disk.infoAt l = some i) :
    disk'.infoAt l = some i := by
  rw [infoAt_eq_map_bareAt] at hi ⊢
  obtain ⟨e, he, rfl⟩ := Option.map_eq_some_iff.mp hi
  rw [hg l e he]
  rfl

end Grows

/-! ### Changes at one location -/

theorem get?_change_below (f : Entry → Entry) (l k : Location) : ∀ e : Entry,
    (change f l e).get? (l ++ k) = (e.get? l).bind fun x => (f x).get? k := by
  induction l with
  | nil => exact fun e => rfl
  | cons name names ih =>
    rintro (⟨a, content⟩ | ⟨a, children⟩ | ⟨gid, target⟩)
    · rfl
    · simp only [change, List.cons_append, get?, lookup_changeChild, ↓reduceIte]
      cases children.lookup name with
      | none => rfl
      | some child => exact ih child
    · rfl

/-- A change at one location is not seen at locations that do not go on from there. -/
theorem bareAt_change (f : Entry → Entry) (l : Location) : ∀ (e : Entry) (k : Location), ¬l <+: k →
    (change f l e).bareAt k = e.bareAt k := by
  induction l with
  | nil => exact fun e k hk => absurd List.nil_prefix hk
  | cons name names ih =>
    rintro (⟨a, content⟩ | ⟨a, children⟩ | ⟨gid, target⟩) k hk
    · rfl
    · cases k with
      | nil => rfl
      | cons n ns =>
        simp only [change, bareAt, get?, lookup_changeChild]
        by_cases hn : n = name
        · subst hn
          have hns : ¬names <+: ns := fun hp => hk (by simpa using hp)
          simp only [↓reduceIte]
          cases children.lookup n with
          | none => rfl
          | some child => exact ih child ns hns
        · simp [hn]
    · rfl

theorem lookup_putChild (name n : String) (entry : Entry) : ∀ children : List (String × Entry),
    (putChild name entry children).lookup n = if n = name then some entry else children.lookup n
  | [] => by
    rw [putChild, lookup_cons_if]
  | child :: rest => by
    have ih := lookup_putChild name n entry rest
    unfold putChild
    by_cases hc : child.1 = name
    · rw [if_pos hc, lookup_cons_if, lookup_cons_if, hc]
      by_cases hn : n = name <;> simp [hn]
    · rw [if_neg hc]
      split
      · rw [lookup_cons_if]
      · rw [lookup_cons_if, lookup_cons_if, ih]
        by_cases hn : n = name
        · subst hn
          simp [Ne.symm hc]
        · simp [hn]

section
variable {disk : Entry} {l : Location} {a : Attributes} {children : List (String × Entry)} {name : String}

theorem get?_put (hl : disk.get? l = some (.directory a children)) (entry : Entry) :
    (disk.put l name entry).get? (l ++ [name]) = some entry := by
  unfold put
  rw [get?_change_below, hl]
  simp [changeChildren, get?, lookup_putChild]

/-- A disk grows by an entry under a free name. -/
theorem grows_put (hl : disk.get? l = some (.directory a children)) (hfree : children.lookup name = none)
    (entry : Entry) : disk.Grows (disk.put l name entry) := by
  intro k e he
  unfold put
  by_cases hk : l <+: k
  · obtain ⟨k, rfl⟩ := hk
    unfold bareAt at he ⊢
    rw [get?_append, hl] at he
    rw [get?_change_below, hl]
    cases k with
    | nil => exact he
    | cons n ns =>
      simp only [Option.bind_some, changeChildren, get?, lookup_putChild] at he ⊢
      by_cases hn : n = name
      · rw [hn, hfree] at he
        cases he
      · rwa [if_neg hn]
  · rwa [bareAt_change _ _ _ _ hk]

/-- A disk grows by what is appended to a file. -/
theorem grows_append {content : List UInt8} (hl : disk.get? l = some (.file a content)) (bytes : List UInt8) :
    disk.Grows (disk.change (append bytes) l) := by
  intro k e he
  by_cases hk : l <+: k
  · obtain ⟨k, rfl⟩ := hk
    unfold bareAt at he ⊢
    rw [get?_append, hl] at he
    rw [get?_change_below, hl]
    cases k with
    | nil => exact he
    | cons n ns => cases he
  · rwa [bareAt_change _ _ _ _ hk]

end

/-! ### Shapes -/

theorem shapes_putChild (name : String) (entry : Entry) : ∀ children,
    shapes (putChild name entry children) = putChild name entry.shape (shapes children)
  | [] => rfl
  | (n, e) :: rest => by
    have ih := shapes_putChild name entry rest
    simp only [putChild, shapes]
    split
    · rfl
    · split
      · rfl
      · rw [shapes, ih]

theorem shapes_changeChild_of_shape {f g : Entry → Entry} (hfg : ∀ e, (f e).shape = g e.shape) (name : String) :
    ∀ children, shapes (changeChild name f children) = changeChild name g (shapes children)
  | [] => rfl
  | (n, e) :: rest => by
    have ih := shapes_changeChild_of_shape hfg name rest
    simp only [changeChild, shapes]
    split
    · rw [shapes, hfg]
    · rw [shapes, ih]

/-- The shape of a disk with a new entry depends on the shapes of both. -/
theorem shape_put (l : Location) (name : String) (entry : Entry) : ∀ disk : Entry,
    (disk.put l name entry).shape = disk.shape.put l name entry.shape := by
  unfold put
  induction l with
  | nil =>
    rintro (⟨a, content⟩ | ⟨a, children⟩ | ⟨gid, target⟩)
    · rfl
    · simp only [change, changeChildren, shape, shapes_putChild]
    · rfl
  | cons n ns ih =>
    rintro (⟨a, content⟩ | ⟨a, children⟩ | ⟨gid, target⟩)
    · rfl
    · simp only [change, shape, shapes_changeChild_of_shape ih]
    · rfl

end Entry

/-! ### Paths on a disk that grows -/

namespace Resolved
variable {disk disk' : Entry} {again again' : Location → List String → Except SystemError Resolved} {follow : Bool}

theorem turn_eq (disk : Entry) (here : Location) (name : String) : turn disk here name =
    match disk.bareAt here with
    | some (.directory _ _) =>
      if name = "." then .goOn here
      else if name = ".." then .goOn here.dropLast
      else if longestName < Text.Utf8.size name then .fault .nameTooLong
      else
        match disk.bareAt (here ++ [name]) with
        | none => .free
        | some (.link _ target) => .link target
        | some _ => .goOn (here ++ [name])
    | _ => .fault .notDirectory := by
  unfold turn Entry.bareAt
  rw [Entry.get?_append]
  rcases disk.get? here with _ | (_ | ⟨a, children⟩ | _)
  · rfl
  · rfl
  · simp only [Option.map_some, Entry.bare, Option.bind_some, Entry.get?, Option.bind_fun_some]
    rcases children.lookup name with _ | (_ | _ | _) <;> rfl
  · rfl

/-- A name that leads on still does. -/
theorem turn_of_grows (hg : disk.Grows disk') {here : Location} {name : String} {next : Turn}
    (ht : turn disk here name = next) (hfree : next ≠ .free) (hfault : ∀ error, next ≠ .fault error) :
    turn disk' here name = next := by
  rw [turn_eq] at ht ⊢
  rcases hb : disk.bareAt here with _ | (_ | ⟨a, children⟩ | _) <;> rw [hb] at ht
  · exact absurd ht.symm (hfault .notDirectory)
  · exact absurd ht.symm (hfault .notDirectory)
  · rw [hg _ _ hb]
    simp only at ht ⊢
    by_cases hdot : name = "."
    · rwa [if_pos hdot] at ht ⊢
    · rw [if_neg hdot] at ht ⊢
      by_cases hup : name = ".."
      · rwa [if_pos hup] at ht ⊢
      · rw [if_neg hup] at ht ⊢
        by_cases hlong : longestName < Text.Utf8.size name
        · rwa [if_pos hlong] at ht ⊢
        · rw [if_neg hlong] at ht ⊢
          cases hc : disk.bareAt (here ++ [name]) with
          | none =>
            rw [hc] at ht
            exact absurd ht.symm hfree
          | some e =>
            rw [hc] at ht
            rwa [hg _ _ hc]
  · exact absurd ht.symm (hfault .notDirectory)

/-- A name that was free leads to what is there now. -/
theorem turn_of_free (hg : disk.Grows disk') {here : Location} {name : String} {e : Entry}
    (ht : turn disk here name = .free) (he : disk'.bareAt (here ++ [name]) = some e)
    (hlink : ∀ gid target, e ≠ .link gid target) : turn disk' here name = .goOn (here ++ [name]) := by
  rw [turn_eq] at ht ⊢
  rcases hb : disk.bareAt here with _ | (_ | ⟨a, children⟩ | _) <;> rw [hb] at ht
  · cases ht
  · cases ht
  · rw [hg _ _ hb, he]
    -- Of what may be there, only a link would lead elsewhere.
    simp only at ht ⊢
    by_cases hdot : name = "."
    · simp [hdot] at ht
    · rw [if_neg hdot] at ht ⊢
      by_cases hup : name = ".."
      · simp [hup] at ht
      · rw [if_neg hup] at ht ⊢
        by_cases hlong : longestName < Text.Utf8.size name
        · simp [hlong] at ht
        · rw [if_neg hlong]
  · cases ht

/-- What a path must lead to on a disk to lead there: it is no link if its name was free. -/
def Filled (disk : Entry) (r : Resolved) : Prop :=
  ∀ directory name, r = .missing directory name →
    ∃ e, disk.bareAt (directory ++ [name]) = some e ∧ ∀ gid target, e ≠ .link gid target

theorem walk_of_grows (hg : disk.Grows disk') {r : Resolved} (hr : r.Filled disk')
    (hagain : ∀ here names, again here names = .ok r → again' here names = .ok (.found r.location)) :
    ∀ names here, walk disk again follow here names = .ok r → walk disk' again' follow here names = .ok (.found r.location)
  | [], here, h => by
    cases h
    rfl
  | name :: rest, here, h => by
    rw [walk_cons] at h ⊢
    cases ht : turn disk here name with
    | goOn next =>
      rw [ht] at h
      rw [turn_of_grows hg ht (by simp) (by simp)]
      exact walk_of_grows hg hr hagain rest next h
    | link target =>
      rw [turn_of_grows hg ht (by simp) (by simp)]
      simp only [ht] at h ⊢
      split at h
      · rename_i hlast
        rw [if_pos hlast]
        cases h
        rfl
      · rename_i hlast
        rw [if_neg hlast]
        exact hagain _ _ h
    | free =>
      simp only [ht] at h
      split at h
      · rename_i hlast
        cases h
        obtain ⟨e, he, hlink⟩ := hr here name rfl
        rw [turn_of_free hg ht he hlink, List.isEmpty_iff.mp hlast]
        rfl
      · cases h
    | fault error => simp [ht] at h

/-- A path leads where it led, and to a name that was free once there is an entry under it. -/
theorem ofNames_of_grows (hg : disk.Grows disk') {r : Resolved} (hr : r.Filled disk') (links : Nat) :
    ∀ here names, ofNames disk follow links here names = .ok r →
      ofNames disk' follow links here names = .ok (.found r.location) := by
  induction links with
  | zero => exact fun here names => walk_of_grows hg hr (fun _ _ h => by cases h) names here
  | succ links ih => exact fun here names => walk_of_grows hg hr ih names here

theorem walk_missing {directory : Location} {name : String}
    (hagain : ∀ here names, again here names = .ok (.missing directory name) → turn disk directory name = .free) :
    ∀ names here, walk disk again follow here names = .ok (.missing directory name) → turn disk directory name = .free
  | [], here, h => by cases h
  | n :: rest, here, h => by
    rw [walk_cons] at h
    cases ht : turn disk here n with
    | goOn next =>
      rw [ht] at h
      exact walk_missing hagain rest next h
    | link target =>
      simp only [ht] at h
      split at h
      · cases h
      · exact hagain _ _ h
    | free =>
      simp only [ht] at h
      split at h
      · cases h
        exact ht
      · cases h
    | fault error => simp [ht] at h

/-- A path that leads to a name that is not there leads to a free one of a directory. -/
theorem ofNames_missing {directory : Location} {name : String} (links : Nat) :
    ∀ here names, ofNames disk follow links here names = .ok (.missing directory name) →
      ∃ a children, disk.get? directory = some (.directory a children) ∧ children.lookup name = none := by
  have hfree : ∀ here names, ofNames disk follow links here names = .ok (.missing directory name) →
      turn disk directory name = .free := by
    induction links with
    | zero => exact fun here names => walk_missing (fun _ _ h => by cases h) names here
    | succ links ih => exact fun here names => walk_missing ih names here
  intro here names h
  have ht := hfree here names h
  unfold turn at ht
  rcases hd : disk.get? directory with _ | (_ | ⟨a, children⟩ | _)
  · simp [hd] at ht
  · simp [hd] at ht
  · refine ⟨a, children, rfl, ?_⟩
    simp only [hd] at ht
    split at ht
    · cases ht
    · split at ht
      · cases ht
      · split at ht
        · cases ht
        · rcases hc : children.lookup name with _ | (_ | _ | _) <;> simp [hc] at ht ⊢
  · simp [hd] at ht

end Resolved

end Curfew
