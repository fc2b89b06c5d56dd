import Curfew.Proofs.Host.Sharing
import Curfew.Proofs.Host.Subtree
import Curfew.Proofs.Text.Pieces
import Curfew.Proofs.Wildcard

/-! Patterns with wildcards. A pattern of one name is matched against the names in the base, but the base is expanded with
it: a name of the base that holds a wildcard stands for the names that it shows, and for itself only if it shows itself.
Where no name of the base is a pattern, the pattern stands for the names in the base that it shows. -/

namespace Curfew

/-! ### Names that look alike -/

namespace Wildcard
variable {component name : String}

/-- What one name of a base stands for: a pattern for the names that it shows, another name for itself. -/
def Resembles (component name : String) : Prop := if isPattern component = true then Shows component name else name = component

theorem resembles_of_isPattern (h : isPattern component = true) : Resembles component name ↔ Shows component name := by
  rw [Resembles, if_pos h]

theorem resembles_of_plain (h : isPattern component = false) : Resembles component name ↔ name = component := by
  rw [Resembles, if_neg (by simp [h])]

theorem forall₂_resembles {components names : List String} (h : ∀ c ∈ components, isPattern c = false) :
    List.Forall₂ Resembles components names ↔ names = components := by
  constructor
  · intro hall
    induction hall with
    | nil => rfl
    | cons hname _ ih =>
      obtain ⟨hplain, hrest⟩ := List.forall_mem_cons.mp h
      rw [ih hrest, (resembles_of_plain hplain).mp hname]
  · rintro rfl
    exact List.forall₂_same.mpr fun c hc => (resembles_of_plain (h c hc)).mpr rfl

end Wildcard

/-- A base stands for a path, name by name. -/
def Path.Lookalike (base d : Path) : Prop :=
  d.root = base.root ∧ List.Forall₂ Wildcard.Resembles base.names d.names ∧ ∀ name ∈ d.names, Fragment.isSegment name = true

/-! ### Entries of a directory -/

namespace Host
variable {h : Host} {d : Path} {name n : String} {only : Bool} {children : List (String × Entry)}

theorem locate_of_children (hc : h.children d = .ok children) : ∃ l, h.locate d true = .ok l := by
  obtain ⟨l, a, hlook⟩ := children_eq_ok.mp hc
  exact ⟨l, (look_eq_ok.mp hlook).1⟩

theorem spelled_of_children (hd : h.disk.WellFormed) (hs : h.disk.Spelled) (hc : h.children d = .ok children)
    (hn : n ∈ children.map (·.1)) : Fragment.isSegment n = true ∧ Resolved.CanBeAsked n := by
  obtain ⟨l, a, hlook⟩ := children_eq_ok.mp hc
  obtain ⟨-, he⟩ := look_eq_ok.mp hlook
  obtain ⟨child, hchild, rfl⟩ := List.mem_map.mp hn
  have hhere : h.disk.get? (l ++ [child.1]) = some child.2 :=
    Entry.get?_directory he (Entry.lookup_of_mem (hd.get? he).1 hchild) []
  exact ⟨hd.isSegment_of_get? hhere _ (by simp), hs.canBeAsked hhere _ (by simp)⟩

/-- Above a path that leads somewhere there is a directory with an entry under the path's last name. -/
theorem mem_children_of_locate {l : Location} (hroot : d.root ≠ .working) (hn : Fragment.isSegment n = true)
    (hl : h.locate (d.child n) true = .ok l) : ∃ children, h.children d = .ok children ∧ n ∈ children.map (·.1) := by
  obtain ⟨htext, hfound⟩ := locate_eq_ok.mp hl
  have hnames : (d.child n).names = d.names ++ [n] := rfl
  rw [hnames] at hfound
  obtain ⟨top, a, children, htop, he⟩ := Resolved.ofNames_enters (List.cons_ne_nil _ _) _ _ _ hfound
  have hchecked : Resolved.checkText d.text = .ok () := Resolved.checkText_of_below hroot [n] htext
  have hlook : h.look d true = .ok (top, .directory a children) := look_eq_ok.mpr ⟨locate_eq_ok.mpr ⟨hchecked, htop⟩, he⟩
  refine ⟨children, children_eq_ok.mpr ⟨top, a, hlook⟩, ?_⟩
  obtain ⟨links, hon⟩ := Resolved.ofNames_on _ _ _ htop
  have hlast : Resolved.ofNames h.disk true links top [n] = .ok (.found l) := (hon true [n] (by simp)).symm.trans hfound
  have hdots : n ≠ "." ∧ n ≠ ".." := by
    simp only [Fragment.isSegment, Bool.and_eq_true, bne_iff_ne] at hn
    exact ⟨hn.1.1.2, hn.1.2⟩
  obtain ⟨again, hwalk⟩ := Resolved.ofNames_eq_walk h.disk links true
  rw [hwalk, Resolved.walk_cons] at hlast
  cases Resolved.step_of_directory he hdots with
  | tooLong _ hturn =>
    rw [hturn] at hlast
    cases hlast
  | free _ hturn =>
    rw [hturn] at hlast
    cases hlast
  | link gid target hchild => exact List.mem_map_of_mem (f := (·.1)) (Entry.mem_of_lookup hchild)
  | down e hchild => exact List.mem_map_of_mem (f := (·.1)) (Entry.mem_of_lookup hchild)

theorem entersDirectory_of_children (hc : h.children d = .ok children) : h.entersDirectory d = true := by
  obtain ⟨l, a, hlook⟩ := children_eq_ok.mp hc
  unfold entersDirectory leadsToDirectory test
  rw [hlook]
  rfl

theorem isThere_of_children (hc : h.children d = .ok children) : h.isThere d = true := by
  obtain ⟨l, a, hlook⟩ := children_eq_ok.mp hc
  obtain ⟨hl, he⟩ := look_eq_ok.mp hlook
  obtain ⟨htext, hfound⟩ := locate_eq_ok.mp hl
  obtain ⟨l', hl', hor⟩ := Resolved.ofNames_unfollowed _ _ _ hfound
  obtain ⟨e, he'⟩ : ∃ e, h.disk.get? l' = some e := by
    rcases hor with rfl | ⟨gid, target, he'⟩
    · exact ⟨_, he⟩
    · exact ⟨_, he'⟩
  unfold isThere
  rw [look_eq_ok.mpr ⟨locate_eq_ok.mpr ⟨htext, hl'⟩, he'⟩]

/-- Why an entry is not found at a path: the path cannot be asked for, its names lead nowhere, or there is none. -/
theorem look_error {follow : Bool} {fault : DiskFault} (hl : h.look d follow = .error fault) :
    Resolved.checkText d.text = .error fault ∨
      (∃ error, Resolved.ofNames h.disk follow Resolved.mostLinks (h.start d) d.names = .error error ∧ fault = .system error d) ∨
      fault = .system .notFound d := by
  rcases bind_eq_error.mp hl with hl | ⟨l, -, hl⟩
  · rcases bind_eq_error.mp hl with hr | ⟨r, -, hr⟩
    · rcases bind_eq_error.mp hr with hchecked | ⟨_, -, hnames⟩
      · exact Or.inl hchecked
      · obtain ⟨error, herror, rfl⟩ := mapError_eq_error.mp hnames
        exact Or.inr (Or.inl ⟨error, herror, rfl⟩)
    · cases r with
      | found l => cases hr
      | missing directory free => exact Or.inr (Or.inr (Except.error.inj hr).symm)
  · cases he : h.disk.get? l with
    | none =>
      rw [he] at hl
      exact Or.inr (Or.inr (Except.error.inj hl).symm)
    | some e =>
      rw [he] at hl
      cases hl

/-- Looking for the entries of a path that the system can be asked for fails, if at all, with an error of the system. -/
theorem children_system (hask : Resolved.CanBeAsked d.text) {fault : DiskFault} (hc : h.children d = .error fault) :
    ∃ error q, fault = .system error q := by
  rcases bind_eq_error.mp hc with hl | ⟨⟨l, e⟩, -, hl⟩
  · rcases look_error hl with hchecked | ⟨error, -, rfl⟩ | rfl
    · rcases Resolved.checkText_of_canBeAsked hask with hok | hlong
      · cases hok.symm.trans hchecked
      · exact ⟨_, _, (Except.error.inj (hlong.symm.trans hchecked)).symm⟩
    · exact ⟨error, d, rfl⟩
    · exact ⟨.notFound, d, rfl⟩
  · cases e with
    | directory a children => cases hl
    | file => exact ⟨_, _, (Except.error.inj hl).symm⟩
    | link => exact ⟨_, _, (Except.error.inj hl).symm⟩

/-! ### One name -/

/-- What a name or pattern finds in a directory. -/
def Finds (h : Host) (d : Path) (name : String) (only : Bool) (n : String) : Prop :=
  if Wildcard.isPattern name = true then
    Wildcard.Shows name n ∧ (∃ children, h.children d = .ok children ∧ n ∈ children.map (·.1)) ∧
      (only = true → h.entersDirectory (d.child n) = true)
  else n = name ∧ h.isThere (d.child n) = true

theorem mem_shown {pattern : String} {names : List String} :
    n ∈ (if Wildcard.isHidden pattern then names else names.filter fun n => !Wildcard.isHidden n).filter (Wildcard.matchName pattern) ↔
      n ∈ names ∧ Wildcard.Shows pattern n := by
  have hmatches : Wildcard.matchName pattern n = true ↔ Wildcard.Matches (Wildcard.ofText pattern) n.toList := Wildcard.matchChars_iff
  rw [List.mem_filter, hmatches]
  unfold Wildcard.Shows
  cases hpattern : Wildcard.isHidden pattern with
  | true => simp
  | false => simp [and_assoc, and_comm]

theorem exists_namesFor (hask : Resolved.CanBeAsked d.text) (name : String) (only : Bool) :
    ∃ names, h.namesFor d name only = .ok names ∧ ∀ n, n ∈ names ↔ h.Finds d name only n := by
  unfold namesFor Finds
  cases hpattern : Wildcard.isPattern name with
  | false =>
    refine ⟨_, rfl, fun n => ?_⟩
    cases hthere : h.isThere (d.child name) with
    | true =>
      simp only [↓reduceIte, List.mem_singleton, Bool.false_eq_true]
      exact ⟨fun heq => ⟨heq, heq ▸ hthere⟩, fun hn => hn.1⟩
    | false =>
      simp only [Bool.false_eq_true, ↓reduceIte, List.not_mem_nil, false_iff, not_and]
      rintro rfl hn
      cases hthere.symm.trans hn
  | true =>
    simp only [↓reduceIte]
    unfold matchingNames
    cases hc : h.children d with
    | error fault =>
      obtain ⟨error, q, rfl⟩ := children_system hask hc
      exact ⟨[], rfl, by simp⟩
    | ok children =>
      refine ⟨_, rfl, fun n => ?_⟩
      rw [mem_shown, List.mem_filter]
      cases only <;> simp [and_comm, and_left_comm]

/-! ### Names down a path -/

/-- The directories that names, given from the last to the first, stand for. -/
def directoriesOf (h : Host) (root : Root) (before : List String) : Except DiskFault (List Path) :=
  if before.any Wildcard.isPattern then h.expandNames root true before else .ok [⟨root, before.reverse⟩]

theorem expandNames_cons (h : Host) (root : Root) (only : Bool) (part : String) (before : List String) :
    h.expandNames root only (part :: before) = (do
      let directories ← h.directoriesOf root before
      let found ← directories.mapM fun d => do return (← h.namesFor d part only).map d.child
      return found.flatten) := by
  rw [expandNames, directoriesOf]
  split <;> rfl

/-- Paths are what names, given from the last to the first, stand for: each resembles the names, and no directory that does
is left out. -/
structure StandFor (h : Host) (root : Root) (before : List String) (found : List Path) : Prop where
  rooted : ∀ d ∈ found, d.root = root
  resembles : ∀ d ∈ found, List.Forall₂ Wildcard.Resembles before d.names.reverse
  segments : ∀ d ∈ found, ∀ n ∈ d.names, Fragment.isSegment n = true
  asked : ∀ d ∈ found, ∀ n ∈ d.names, Resolved.CanBeAsked n
  complete : ∀ d children, d.root = root → List.Forall₂ Wildcard.Resembles before d.names.reverse →
    (∀ n ∈ d.names, Fragment.isSegment n = true) → h.children d = .ok children → d ∈ found

variable {root : Root} {before : List String} {found : List Path}

theorem StandFor.canBeAsked (hf : h.StandFor root before found) (hroot : root ≠ .working) {d : Path} (hd : d ∈ found) :
    Resolved.CanBeAsked d.text := by
  have hd' : d.root ≠ .working := hf.rooted d hd ▸ hroot
  exact (Resolved.canBeAsked_text hd').mpr (hf.asked d hd)

theorem exists_expandNames (hdirectories : h.directoriesOf root before = .ok found)
    (hask : ∀ d ∈ found, Resolved.CanBeAsked d.text) (name : String) (only : Bool) :
    ∃ paths, h.expandNames root only (name :: before) = .ok paths ∧
      ∀ q, q ∈ paths ↔ ∃ d ∈ found, ∃ n, h.Finds d name only n ∧ q = d.child n := by
  have hread : ∀ d ∈ found, ∃ paths, (do return (← h.namesFor d name only).map d.child : Except DiskFault (List Path)) = .ok paths := by
    intro d hd
    obtain ⟨names, hnames, -⟩ := exists_namesFor (h := h) (hask d hd) name only
    exact ⟨names.map d.child, by rw [hnames]; rfl⟩
  obtain ⟨all, hall, hmem⟩ := exists_mapM hread
  refine ⟨all.flatten, ?_, fun q => ?_⟩
  · rw [expandNames_cons]
    exact bind_eq_ok.mpr ⟨found, hdirectories, bind_eq_ok.mpr ⟨all, hall, rfl⟩⟩
  · simp only [List.mem_flatten, hmem]
    constructor
    · rintro ⟨paths, ⟨d, hd, hpaths⟩, hq⟩
      obtain ⟨names, hnames, hfinds⟩ := exists_namesFor (h := h) (hask d hd) name only
      rw [hnames] at hpaths
      obtain rfl := Except.ok.inj hpaths
      obtain ⟨n, hn, rfl⟩ := List.mem_map.mp hq
      exact ⟨d, hd, n, (hfinds n).mp hn, rfl⟩
    · rintro ⟨d, hd, n, hn, rfl⟩
      obtain ⟨names, hnames, hfinds⟩ := exists_namesFor (h := h) (hask d hd) name only
      exact ⟨names.map d.child, ⟨d, hd, by rw [hnames]; rfl⟩, List.mem_map_of_mem ((hfinds n).mpr hn)⟩

theorem Finds.inv (hd : h.disk.WellFormed) (hs : h.disk.Spelled)
    (hname : Fragment.isSegment name = true ∧ Resolved.CanBeAsked name) (hn : h.Finds d name only n) :
    Wildcard.Resembles name n ∧ Fragment.isSegment n = true ∧ Resolved.CanBeAsked n := by
  unfold Finds at hn
  cases hpattern : Wildcard.isPattern name with
  | true =>
    rw [if_pos hpattern] at hn
    obtain ⟨hshows, ⟨children, hc, hmem⟩, -⟩ := hn
    exact ⟨(Wildcard.resembles_of_isPattern hpattern).mpr hshows, spelled_of_children hd hs hc hmem⟩
  | false =>
    rw [if_neg (by simp [hpattern])] at hn
    obtain ⟨rfl, -⟩ := hn
    exact ⟨(Wildcard.resembles_of_plain hpattern).mpr rfl, hname⟩

/-- A directory is found in the directory above it by all names that it resembles. -/
theorem finds_of_children (hroot : d.root ≠ .working) (hsegment : Fragment.isSegment n = true)
    (hn : Wildcard.Resembles name n) (hc : h.children (d.child n) = .ok children) :
    ∃ entries, h.children d = .ok entries ∧ h.Finds d name true n := by
  obtain ⟨l, hl⟩ := locate_of_children hc
  obtain ⟨entries, hentries, hmem⟩ := mem_children_of_locate hroot hsegment hl
  refine ⟨entries, hentries, ?_⟩
  unfold Finds
  cases hpattern : Wildcard.isPattern name with
  | true =>
    rw [if_pos rfl]
    exact ⟨(Wildcard.resembles_of_isPattern hpattern).mp hn, ⟨entries, hentries, hmem⟩, fun _ => entersDirectory_of_children hc⟩
  | false =>
    rw [if_neg (by simp)]
    exact ⟨(Wildcard.resembles_of_plain hpattern).mp hn, isThere_of_children hc⟩

theorem eq_child_of_reverse {q : Path} {rest : List String} (hq : q.names.reverse = n :: rest) :
    q = Path.child ⟨q.root, rest.reverse⟩ n := by
  have hback := congrArg List.reverse hq
  rw [List.reverse_reverse, List.reverse_cons] at hback
  rw [Path.child, ← hback]

/-- A path of one more name is found in a directory that is found, and the other way round. -/
theorem StandFor.cons (hd : h.disk.WellFormed) (hs : h.disk.Spelled) (hroot : root ≠ .working)
    (hname : Fragment.isSegment name = true ∧ Resolved.CanBeAsked name) (hf : h.StandFor root before found) {paths : List Path}
    (hpaths : ∀ q, q ∈ paths ↔ ∃ d ∈ found, ∃ n, h.Finds d name true n ∧ q = d.child n) :
    h.StandFor root (name :: before) paths := by
  refine ⟨fun q hq => ?_, fun q hq => ?_, fun q hq => ?_, fun q hq => ?_, ?_⟩
  · obtain ⟨d, hd, n, -, rfl⟩ := (hpaths q).mp hq
    exact hf.rooted d hd
  · obtain ⟨d, hmem, n, hn, rfl⟩ := (hpaths q).mp hq
    rw [Path.child, List.reverse_append]
    exact .cons (hn.inv hd hs hname).1 (hf.resembles d hmem)
  · obtain ⟨d, hmem, n, hn, rfl⟩ := (hpaths q).mp hq
    intro m hm
    rcases List.mem_append.mp hm with hm | hm
    · exact hf.segments d hmem m hm
    · exact List.mem_singleton.mp hm ▸ (hn.inv hd hs hname).2.1
  · obtain ⟨d, hmem, n, hn, rfl⟩ := (hpaths q).mp hq
    intro m hm
    rcases List.mem_append.mp hm with hm | hm
    · exact hf.asked d hmem m hm
    · exact List.mem_singleton.mp hm ▸ (hn.inv hd hs hname).2.2
  · intro q children hq hresembles hsegments hc
    -- A directory is there only if the one above it is, which is found already.
    obtain ⟨n, rest, hn, hrest, hnames⟩ := List.forall₂_cons_left_iff.mp hresembles
    obtain ⟨d, rfl, hdroot, rfl⟩ : ∃ d : Path, q = d.child n ∧ d.root = root ∧ d.names.reverse = rest :=
      ⟨_, eq_child_of_reverse hnames, hq, List.reverse_reverse rest⟩
    obtain ⟨entries, hentries, hfinds⟩ := finds_of_children (hdroot ▸ hroot) (hsegments n (by simp [Path.child])) hn hc
    have hfound : d ∈ found :=
      hf.complete d entries hdroot hrest (fun m hm => hsegments m (List.mem_append_left _ hm)) hentries
    exact (hpaths _).mpr ⟨d, hfound, n, hfinds, rfl⟩

theorem standFor_plain (hplain : ∀ n ∈ before, Wildcard.isPattern n = false)
    (hnames : ∀ n ∈ before, Fragment.isSegment n = true ∧ Resolved.CanBeAsked n) :
    h.StandFor root before [⟨root, before.reverse⟩] := by
  refine ⟨by simp, ?_, ?_, ?_, ?_⟩
  · intro d hd
    obtain rfl := List.mem_singleton.mp hd
    rw [List.reverse_reverse]
    exact (Wildcard.forall₂_resembles hplain).mpr rfl
  · intro d hd n hn
    obtain rfl := List.mem_singleton.mp hd
    exact (hnames n (List.mem_reverse.mp hn)).1
  · intro d hd n hn
    obtain rfl := List.mem_singleton.mp hd
    exact (hnames n (List.mem_reverse.mp hn)).2
  · intro d children hdroot hresembles _ _
    have hback := congrArg List.reverse ((Wildcard.forall₂_resembles hplain).mp hresembles)
    rw [List.reverse_reverse] at hback
    rw [← hdroot, ← hback]
    exact List.mem_singleton_self _

theorem exists_directoriesOf (hd : h.disk.WellFormed) (hs : h.disk.Spelled) (hroot : root ≠ .working) (before : List String)
    (hnames : ∀ n ∈ before, Fragment.isSegment n = true ∧ Resolved.CanBeAsked n) :
    ∃ found, h.directoriesOf root before = .ok found ∧ h.StandFor root before found := by
  induction before with
  | nil => exact ⟨_, rfl, standFor_plain (by simp) hnames⟩
  | cons name before ih =>
    cases hany : (name :: before).any Wildcard.isPattern with
    | false =>
      refine ⟨_, if_neg (by simp [hany]), standFor_plain (fun n hn => ?_) hnames⟩
      simpa using List.any_eq_false.mp hany n hn
    | true =>
      obtain ⟨hname, hbefore⟩ := List.forall_mem_cons.mp hnames
      obtain ⟨found, hfound, hstand⟩ := ih hbefore
      obtain ⟨paths, hpaths, hmem⟩ := exists_expandNames hfound (fun d hd => hstand.canBeAsked hroot hd) name true
      exact ⟨paths, (if_pos hany).trans hpaths, hstand.cons hd hs hroot hname hmem⟩

end Host

end Curfew
