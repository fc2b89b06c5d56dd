import Curfew.Host
import Curfew.Proofs.Disk.Shape

/-! Where paths lead. Resolving a path reads the shape of the disk alone. A path that goes on behind
another first leads where the other leads, and then down through real directories, unless a link stands
on the way. -/

namespace Curfew

/-- A link is at a location. -/
def Entry.HasLink (disk : Entry) (l : Location) : Prop := ∃ gid target, disk.get? l = some (.link gid target)

namespace Resolved
variable {disk : Entry} {again again' : Location → List String → Except SystemError Resolved}

/-! ### One name -/

/-- What one name on the way leads to. -/
inductive Turn where
  | goOn (l : Location)
  | link (target : String)
  | free
  | fault (error : SystemError)

def turn (disk : Entry) (here : Location) (name : String) : Turn :=
  match disk.get? here with
  | some (.directory _ children) =>
    if name = "." then .goOn here
    else if name = ".." then .goOn here.dropLast
    else if longestName < Text.Utf8.size name then .fault .nameTooLong
    else
      match children.lookup name with
      | none => .free
      | some (.link _ target) => .link target
      | some _ => .goOn (here ++ [name])
  | _ => .fault .notDirectory

theorem walk_cons (follow : Bool) (here : Location) (name : String) (rest : List String) :
    walk disk again follow here (name :: rest) =
      match turn disk here name with
      | .goOn l => walk disk again follow l rest
      | .link target =>
        if rest.isEmpty && !follow then .ok (.found (here ++ [name]))
        else again (targetStart here target) (targetNames target ++ rest)
      | .free => if rest.isEmpty then .ok (.missing here name) else .error .notFound
      | .fault error => .error error := by
  rw [walk, turn]
  rcases disk.get? here with _ | (_ | ⟨a, children⟩ | _)
  · rfl
  · rfl
  · simp only
    split
    · rfl
    · split
      · rfl
      · split
        · rfl
        · rcases children.lookup name with _ | (_ | _ | _) <;> rfl
  · rfl

theorem turn_shape (here : Location) (name : String) : turn disk.shape here name = turn disk here name := by
  unfold turn
  rw [Entry.get?_shape]
  rcases disk.get? here with _ | (_ | ⟨a, children⟩ | _)
  · rfl
  · rfl
  · simp only [Option.map_some, Entry.shape, Entry.lookup_shapes]
    rcases children.lookup name with _ | (_ | _ | _) <;> rfl
  · rfl

/-- A name that is no dot leads to the entry under it. -/
theorem turn_eq_of_plain (disk : Entry) (here : Location) {name : String} (hname : name ≠ "." ∧ name ≠ "..") :
    (∀ l, turn disk here name = .goOn l → l = here ++ [name]) ∧
      ∀ target, turn disk here name = .link target → disk.HasLink (here ++ [name]) := by
  unfold turn
  rcases hd : disk.get? here with _ | (_ | ⟨a, children⟩ | _)
  · simp
  · simp
  · simp only [hname.1, hname.2, ↓reduceIte]
    split
    · simp
    · have hget : disk.get? (here ++ [name]) = children.lookup name := by
        simp only [Entry.get?_append, hd, Option.bind_some, Entry.get?, Option.bind_fun_some]
      rcases hc : children.lookup name with _ | (_ | _ | ⟨gid, target⟩)
      · simp
      · simp
      · simp
      · exact ⟨fun _ h => by simp at h, fun t _ => ⟨gid, target, hget.trans hc⟩⟩
  · simp

theorem hasLink_of_turn {here : Location} {name target : String} (h : turn disk here name = .link target) :
    disk.HasLink (here ++ [name]) := by
  refine (turn_eq_of_plain disk here ⟨?_, ?_⟩).2 target h <;>
  · rintro rfl
    unfold turn at h
    split at h
    · simp at h
    · cases h

/-! ### Shapes -/

theorem walk_shape (follow : Bool) (names : List String) :
    ∀ here, walk disk.shape again follow here names = walk disk again follow here names := by
  induction names with
  | nil => exact fun here => rfl
  | cons name rest ih =>
    intro here
    simp only [walk_cons, turn_shape, ih]

theorem ofNames_shape (follow : Bool) (links : Nat) :
    ofNames disk.shape follow links = ofNames disk follow links := by
  induction links with
  | zero => exact funext fun here => funext fun names => walk_shape follow names here
  | succ links ih =>
    funext here names
    rw [ofNames, ih]
    exact walk_shape follow names here

/-- Where names lead is read off the shape. -/
theorem ofNames_congr {disk' : Entry} (h : disk'.shape = disk.shape) (follow : Bool) (links : Nat) :
    ofNames disk' follow links = ofNames disk follow links := by
  rw [← ofNames_shape, h, ofNames_shape]

/-! ### Going on behind a path -/

/-- Names lead somewhere, and if no link is there, all that follows them is looked up from there. -/
def Passes (disk : Entry) (f : Location → List String → Except SystemError Resolved) (here : Location)
    (names : List String) : Prop :=
  ∃ l, f here names = .ok (.found l) ∧
    (disk.HasLink l ∨ ∃ links, ∀ more, more ≠ [] → f here (names ++ more) = ofNames disk false links l more)

theorem Passes.congr {f g : Location → List String → Except SystemError Resolved} {here there : Location}
    {names names' : List String} (h : Passes disk f here names)
    (hfg : ∀ more, g there (names' ++ more) = f here (names ++ more)) : Passes disk g there names' := by
  obtain ⟨l, hl, hor⟩ := h
  refine ⟨l, ?_, hor.imp id fun ⟨links, hon⟩ => ⟨links, fun more hm => (hfg more).trans (hon more hm)⟩⟩
  simpa using (hfg []).trans (by simpa using hl)

theorem walk_passes (links : Nat) (hlinks : ofNames disk false links = walk disk again false) {more : List String}
    (hmore : more ≠ []) {l : Location}
    (hagain : ∀ here names, again here (names ++ more) = .ok (.found l) → Passes disk again here names) :
    ∀ names here, walk disk again false here (names ++ more) = .ok (.found l) →
      Passes disk (walk disk again false) here names
  | [], here, _ => ⟨here, rfl, Or.inr ⟨links, fun more _ => by rw [hlinks]; rfl⟩⟩
  | name :: names, here, h => by
    have ih := walk_passes links hlinks hmore hagain names
    rw [List.cons_append, walk_cons] at h
    cases ht : turn disk here name with
    | goOn next =>
      rw [ht] at h
      exact (ih next h).congr fun more => by rw [List.cons_append, walk_cons, ht]
    | link target =>
      cases names with
      | nil => exact ⟨here ++ [name], by rw [walk_cons, ht]; rfl, Or.inl (hasLink_of_turn ht)⟩
      | cons next names =>
        simp only [ht, List.cons_append, List.isEmpty_cons, Bool.false_and, Bool.false_eq_true, ↓reduceIte] at h
        -- The names of the target come in front of the others, those behind stay last.
        rw [← List.cons_append, ← List.append_assoc] at h
        exact (hagain _ _ h).congr fun more => by simp [walk_cons, ht]
    | free =>
      have hne : (names ++ more).isEmpty = false := by simp [hmore]
      simp [ht, hne] at h
    | fault error => simp [ht] at h

theorem ofNames_passes {more : List String} (hmore : more ≠ []) {l : Location} (links : Nat) :
    ∀ here names, ofNames disk false links here (names ++ more) = .ok (.found l) →
      Passes disk (ofNames disk false links) here names := by
  induction links with
  | zero => exact fun here names => walk_passes 0 rfl hmore (fun _ _ h => by cases h) names here
  | succ links ih => exact fun here names => walk_passes (links + 1) rfl hmore ih names here

/-! ### Going down -/

/-- Names that are no dots lead down through directories, up to the first link among those before the
last. -/
theorem walk_down : ∀ (names : List String) (here : Location) {l : Location},
    (∀ name ∈ names, name ≠ "." ∧ name ≠ "..") → walk disk again false here names = .ok (.found l) →
      l = here ++ names ∨ ∃ above below, names = above ++ below ∧ below ≠ [] ∧ disk.HasLink (here ++ above) ∧
        ∀ again', walk disk again' false here above = .ok (.found (here ++ above))
  | [], here, l, _, h => by
    cases h
    exact Or.inl (List.append_nil here).symm
  | name :: rest, here, l, hdots, h => by
    have hturn := turn_eq_of_plain disk here (hdots name List.mem_cons_self)
    rw [walk_cons] at h
    cases ht : turn disk here name with
    | goOn next =>
      obtain rfl := hturn.1 next ht
      rw [ht] at h
      rcases walk_down rest (here ++ [name]) (fun n hn => hdots n (List.mem_cons_of_mem _ hn)) h with
        h | ⟨above, below, hrest, hbelow, hlink, hup⟩
      · exact Or.inl (by simpa using h)
      · refine Or.inr ⟨name :: above, below, by rw [hrest]; rfl, hbelow, by simpa using hlink, fun again' => ?_⟩
        simpa [walk_cons, ht] using hup again'
    | link target =>
      cases rest with
      | nil =>
        simp only [ht, List.isEmpty_nil, Bool.not_false, Bool.and_self, ↓reduceIte, Except.ok.injEq,
          Resolved.found.injEq] at h
        exact Or.inl h.symm
      | cons next rest =>
        refine Or.inr ⟨[name], next :: rest, rfl, by simp, hturn.2 target ht, fun again' => ?_⟩
        simp [walk_cons, ht]
    | free =>
      rw [ht] at h
      simp only at h
      split at h <;> cases h
    | fault error => simp [ht] at h

/-! ### Following the last link -/

theorem walk_follow {l : Location} (hl : ¬disk.HasLink l)
    (hagain : ∀ here names, again here names = .ok (.found l) → again' here names = .ok (.found l)) :
    ∀ names here, walk disk again false here names = .ok (.found l) →
      walk disk again' true here names = .ok (.found l)
  | [], here, h => h
  | name :: rest, here, h => by
    rw [walk_cons] at h ⊢
    cases ht : turn disk here name with
    | goOn next =>
      rw [ht] at h
      exact walk_follow hl hagain rest next h
    | link target =>
      cases rest with
      | nil =>
        simp only [ht, List.isEmpty_nil, Bool.not_false, Bool.and_self, ↓reduceIte, Except.ok.injEq,
          Resolved.found.injEq] at h
        exact absurd (h ▸ hasLink_of_turn ht) hl
      | cons next rest =>
        simp only [ht, List.isEmpty_cons, Bool.false_and, Bool.false_eq_true, ↓reduceIte] at h ⊢
        exact hagain _ _ h
    | free =>
      rw [ht] at h
      simp only at h
      split at h <;> cases h
    | fault error => simp [ht] at h

/-- A path that leads to no link leads there as well when links are followed. -/
theorem ofNames_follow {l : Location} (hl : ¬disk.HasLink l) (links : Nat) :
    ∀ here names, ofNames disk false links here names = .ok (.found l) →
      ofNames disk true links here names = .ok (.found l) := by
  induction links with
  | zero => exact fun here names => walk_follow hl (fun _ _ h => by cases h) names here
  | succ links ih => exact fun here names => walk_follow hl ih names here

end Resolved

end Curfew
