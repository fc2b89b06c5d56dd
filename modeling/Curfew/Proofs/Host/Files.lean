import Curfew.Proofs.Disk.Growth
import Curfew.Proofs.Host.Looking

/-! Making and writing files. All of it lets the disk grow. Whether a file can be made does not depend on modes and
groups, and what is appended to a file stands at its end. -/

namespace Curfew
namespace Host

theorem map_eq_map {ε α β : Type} {f : α → β} {x y : Except ε α} (h : x.map f = y.map f) :
    (∃ fault, x = .error fault ∧ y = .error fault) ∨ ∃ a b, x = .ok a ∧ y = .ok b ∧ f a = f b := by
  cases x with
  | error fault =>
    cases y with
    | error fault' => exact Or.inl ⟨fault, rfl, congrArg Except.error (Except.error.inj h).symm⟩
    | ok b => cases h
  | ok a =>
    cases y with
    | error fault' => cases h
    | ok b => exact Or.inr ⟨a, b, rfl, rfl, Except.ok.inj h⟩

variable {h h' h'' : Host} {p : Path} {l : Location} {r : Resolved} {follow : Bool}

/-! ### Hosts that grow -/

/-- The host is as before but for entries and contents that were added. -/
structure Grows (h h' : Host) : Prop where
  rest : h' = { h with disk := h'.disk }
  disk : h.disk.Grows h'.disk

namespace Grows

theorem refl (h : Host) : h.Grows h := ⟨rfl, .refl _⟩

theorem trans (h₁ : h.Grows h') (h₂ : h'.Grows h'') : h.Grows h'' :=
  ⟨by rw [h₂.rest, h₁.rest], h₁.disk.trans h₂.disk⟩

/-- A path leads where it led, and to a name that was free once there is an entry under it. -/
theorem resolve (hg : h.Grows h') (hr : h.resolve p follow = .ok r) (hfilled : r.Filled h'.disk) :
    h'.resolve p follow = .ok (.found r.location) := by
  obtain ⟨htext, hnames⟩ := resolve_eq_ok.mp hr
  refine resolve_eq_ok.mpr ⟨htext, ?_⟩
  have hstart : h'.start p = h.start p := by
    unfold start
    rw [hg.rest]
  rw [hstart]
  exact Resolved.ofNames_of_grows hg.disk hfilled _ _ _ hnames

theorem locate (hg : h.Grows h') (hl : h.locate p follow = .ok l) : h'.locate p follow = .ok l := by
  rw [locate_eq_ok_iff_resolve] at hl ⊢
  exact hg.resolve hl fun directory name hm => by cases hm

end Grows

theorem grows_put {directory : Location} {name : String} (hr : h.resolve p follow = .ok (.missing directory name))
    (e : Entry) : h.Grows { h with disk := h.disk.put directory name e } ∧
      (h.disk.put directory name e).get? (directory ++ [name]) = some e := by
  obtain ⟨a, children, hd, hfree⟩ := Resolved.ofNames_missing _ _ _ (resolve_eq_ok.mp hr).2
  exact ⟨⟨rfl, Entry.grows_put hd hfree e⟩, Entry.get?_put hd e⟩

/-! ### Directories -/

theorem makeDirectory_inv (hm : h.makeDirectory p = .ok h') : ∃ directory name a,
    h.resolve p false = .ok (.missing directory name) ∧
      h' = { h with disk := h.disk.put directory name (.directory a []) } := by
  unfold makeDirectory at hm
  cases hr : h.resolve p false with
  | error fault => simp [hr, bind, Except.bind] at hm
  | ok r =>
    simp only [hr, bind, Except.bind] at hm
    cases r with
    | found l => cases hm
    | missing directory name => exact ⟨directory, name, _, rfl, (Except.ok.inj hm).symm⟩

theorem makeDirectory_grows (hm : h.makeDirectory p = .ok h') : h.Grows h' := by
  obtain ⟨directory, name, a, hr, rfl⟩ := makeDirectory_inv hm
  exact (grows_put hr _).1

theorem ensureDirectory_grows (hm : h.ensureDirectory p = .ok h') : h.Grows h' := by
  unfold ensureDirectory at hm
  split at hm
  · cases hm
  · cases hd : h.leadsToDirectory p with
    | error fault => simp [hd, bind, Except.bind] at hm
    | ok b =>
      simp only [hd, bind, Except.bind] at hm
      split at hm
      · cases hm
        exact .refl h
      · cases hm
  · exact makeDirectory_grows hm

theorem makeDirectories_grows (fuel : Nat) : ∀ {p : Path} {h h' : Host}, makeDirectories fuel p h = .ok h' → h.Grows h' := by
  induction fuel with
  | zero => exact fun hm => ensureDirectory_grows hm
  | succ fuel ih =>
    intro p h h' hm
    rw [makeDirectories] at hm
    split at hm
    · split at hm
      · cases hm
      · cases hp : makeDirectories fuel p.parent h with
        | error fault => simp [hp, Except.bind] at hm
        | ok h₁ =>
          simp only [hp, Except.bind] at hm
          exact (ih hp).trans (ensureDirectory_grows hm)
    · exact ensureDirectory_grows hm

theorem makeParents_grows (hm : h.makeParents p = .ok h') : h.Grows h' := makeDirectories_grows _ hm

/-! ### Hosts of one shape -/

theorem sameShape_of_shape_eq (hs : h'.shape = h.shape) : SameShape h h' := by
  unfold shape at hs
  cases h
  cases h'
  simp only [mk.injEq] at hs
  obtain ⟨hdisk, rfl, rfl, rfl, rfl, rfl⟩ := hs
  exact ⟨rfl, hdisk⟩

namespace SameShape

theorem infoAt_eq_none_iff (s : SameShape h h') (l : Location) : h'.disk.infoAt l = none ↔ h.disk.infoAt l = none := by
  have hget := congrArg (Entry.get? l) s.shape
  rw [Entry.get?_shape, Entry.get?_shape] at hget
  unfold Entry.infoAt
  rw [Option.map_eq_none_iff, Option.map_eq_none_iff, ← Option.map_eq_none_iff, hget, Option.map_eq_none_iff]

theorem leadsToDirectory (s : SameShape h h') (p : Path) : h'.leadsToDirectory p = h.leadsToDirectory p := by
  rw [← leadsToDirectory_shape, s.shape_eq, leadsToDirectory_shape]

theorem makeDirectory (s : SameShape h h') (p : Path) :
    (h'.makeDirectory p).map Host.shape = (h.makeDirectory p).map Host.shape := by
  unfold Host.makeDirectory
  rw [s.resolve]
  cases h.resolve p false with
  | error fault => rfl
  | ok r =>
    cases r with
    | found l => rfl
    | missing directory name =>
      refine congrArg Except.ok (SameShape.shape_eq ⟨?_, ?_⟩)
      · rw [s.rest]
      · show (h'.disk.put directory name _).shape = (h.disk.put directory name _).shape
        rw [Entry.shape_put, Entry.shape_put, s.shape]
        rfl

theorem ensureDirectory (s : SameShape h h') (p : Path) :
    (h'.ensureDirectory p).map Host.shape = (h.ensureDirectory p).map Host.shape := by
  unfold Host.ensureDirectory
  rw [s.leadsToDirectory]
  rcases map_eq_map (s.makeDirectory p) with ⟨fault, hx, hy⟩ | ⟨k, k', hx, hy, hk⟩
  · rw [hx, hy]
    split
    · rfl
    · cases h.leadsToDirectory p with
      | error fault => rfl
      | ok b =>
        cases b with
        | true => exact congrArg Except.ok s.shape_eq
        | false => rfl
    · rfl
  · rw [hx, hy]
    exact congrArg Except.ok hk

theorem makeDirectories (fuel : Nat) : ∀ {h h' : Host} (p : Path), SameShape h h' →
    (Host.makeDirectories fuel p h').map Host.shape = (Host.makeDirectories fuel p h).map Host.shape := by
  induction fuel with
  | zero => exact fun p s => s.ensureDirectory p
  | succ fuel ih =>
    intro h h' p s
    rw [Host.makeDirectories, Host.makeDirectories]
    rcases map_eq_map (s.ensureDirectory p) with ⟨fault, hx, hy⟩ | ⟨k, k', hx, hy, hk⟩
    · rw [hx, hy]
      split
      · split
        · rfl
        · rcases map_eq_map (ih p.parent s) with ⟨fault, hx, hy⟩ | ⟨k, k', hx, hy, hk⟩
          · rw [hx, hy]
          · rw [hx, hy]
            exact (sameShape_of_shape_eq hk).ensureDirectory p
      · rfl
    · rw [hx, hy]
      exact congrArg Except.ok hk

end SameShape

/-! ### Files -/

/-- A file can be made at a path: the directories above it are there or can be made, and then its name is free. -/
def CanMake (h : Host) (p : Path) : Prop :=
  ∃ h' directory name, h.makeParents p = .ok h' ∧ h'.resolve p true = .ok (.missing directory name)

theorem SameShape.canMake (s : SameShape h h') (hc : h.CanMake p) : h'.CanMake p := by
  obtain ⟨k, directory, name, hk, hr⟩ := hc
  rcases map_eq_map (SameShape.makeDirectories p.names.length p.parent s) with ⟨fault, -, hy⟩ | ⟨k', k₁, hx, hy, hshape⟩
  · cases hk.symm.trans hy
  · obtain rfl : k = k₁ := Except.ok.inj (hk.symm.trans hy)
    exact ⟨k', directory, name, hx, ((sameShape_of_shape_eq hshape).resolve p true).trans hr⟩

theorem canMake_iff : h.CanMake p ↔ ∃ directory name,
    ((h.makeParents p).bind fun h => h.resolve p true).toOption = some (.missing directory name) := by
  unfold CanMake
  cases h.makeParents p with
  | error fault => simp [Except.bind, Except.toOption]
  | ok h' => cases hr : h'.resolve p true <;> simp [Except.bind, Except.toOption, hr]

theorem content_eq_ok {bytes : List UInt8} : h.content p = .ok bytes ↔ ∃ l a, h.look p true = .ok (l, .file a bytes) := by
  unfold content
  rcases h.look p true with fault | ⟨l, ⟨a, content⟩ | ⟨a, children⟩ | ⟨gid, target⟩⟩
  · simp [bind, Except.bind]
  · simp [bind, Except.bind, pure, Except.pure]
  · simp [bind, Except.bind, throw, throwThe, MonadExceptOf.throw]
  · simp [bind, Except.bind, throw, throwThe, MonadExceptOf.throw]

theorem content_of_missing {directory : Location} {name : String} (hr : h.resolve p true = .ok (.missing directory name)) :
    h.content p = .error (.system .notFound p) := by
  unfold content look locate
  rw [hr]
  rfl

/-- There is no file yet where one can be made. -/
theorem CanMake.content_ne (hc : h.CanMake p) (bytes : List UInt8) : h.content p ≠ .ok bytes := by
  intro hb
  obtain ⟨h', directory, name, hm, hr⟩ := hc
  obtain ⟨l, a, hlook⟩ := content_eq_ok.mp hb
  have hl := (makeParents_grows hm).locate (look_eq_ok.mp hlook).1
  rw [locate_eq_ok_iff_resolve, hr] at hl
  cases hl

/-- A path that led to a free name leads to the file that is there now. -/
theorem Grows.look_file {directory : Location} {name : String} {a : Attributes} {bytes : List UInt8} (hg : h.Grows h')
    (hr : h.resolve p follow = .ok (.missing directory name)) (hget : h'.disk.get? (directory ++ [name]) = some (.file a bytes)) :
    h'.look p follow = .ok (directory ++ [name], .file a bytes) := by
  refine look_eq_ok.mpr ⟨?_, hget⟩
  rw [locate_eq_ok_iff_resolve]
  refine hg.resolve hr fun d n hm => ?_
  cases hm
  exact ⟨_, by unfold Entry.bareAt; rw [hget]; rfl, by simp [Entry.bare]⟩

/-- What is written to a path where nothing is makes a file of it. -/
theorem appendFile_missing {directory : Location} {name : String} (hr : h.resolve p true = .ok (.missing directory name))
    (bytes : List UInt8) : ∃ h' a, h.appendFile p bytes = .ok h' ∧ h.Grows h' ∧
      h'.disk.get? (directory ++ [name]) = some (.file a bytes) := by
  obtain ⟨hg, hget⟩ := grows_put hr (.file (h.newAttributes directory fileMode false) bytes)
  refine ⟨_, _, ?_, hg, hget⟩
  unfold appendFile
  rw [hr]
  rfl

/-- What is written to a file stands behind what was in it. -/
theorem appendFile_found {a : Attributes} {content : List UInt8} (hlook : h.look p true = .ok (l, .file a content))
    (bytes : List UInt8) : ∃ h', h.appendFile p bytes = .ok h' ∧ h.Grows h' ∧
      h'.look p true = .ok (l, .file a (content ++ bytes)) := by
  obtain ⟨hl, he⟩ := look_eq_ok.mp hlook
  have hg : h.Grows (h.changeAt l (Entry.append bytes)) := ⟨rfl, Entry.grows_append he bytes⟩
  refine ⟨h.changeAt l (Entry.append bytes), ?_, hg, look_eq_ok.mpr ⟨hg.locate hl, ?_⟩⟩
  · unfold appendFile
    rw [locate_eq_ok_iff_resolve.mp hl]
    simp only [bind, Except.bind, he]
    rfl
  · have hget := Entry.get?_change_below (Entry.append bytes) l [] h.disk
    rw [List.append_nil, he] at hget
    exact hget

end Host

end Curfew
