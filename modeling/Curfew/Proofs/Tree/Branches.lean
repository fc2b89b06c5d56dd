import Curfew.Proofs.Config.Settings
import Curfew.Proofs.Tree.Coverage

/-! A tree name by name. Under a name of a node stands the child that the config holds there or, where it holds none,
what the directory of the node has there; whether a node is built and what is listed below it is told for each name
alone. -/

namespace Curfew

/-! ### Directories -/

namespace Host
variable {h : Host} {path : Path}

/-- A path is a directory to go down into, and there is an entry under a name. -/
def Holds (h : Host) (path : Path) (name : String) (e : Entry) : Prop :=
  h.isDirectory path = .ok true ∧ ∃ children, h.children path = .ok children ∧ (name, e) ∈ children

/-- The system could be asked of an entry at a path and of all below it. -/
def Asked (h : Host) (path : Path) (e : Entry) : Prop :=
  (∃ b, h.isDirectory path = .ok b) ∧ ∀ below ∈ e.descendants, ∃ b, h.isDirectory (path.below below.1) = .ok b

theorem children_of_isDirectory (hb : h.isDirectory path = .ok true) : ∃ children, h.children path = .ok children := by
  obtain ⟨l, a, children, hl, -, he⟩ := directory_of_isDirectory hb
  exact ⟨children, children_eq_ok.mpr ⟨l, a, look_eq_ok.mpr ⟨hl, he⟩⟩⟩

theorem list_eq_ok {names : List String} :
    h.list path = .ok names ↔ ∃ children, h.children path = .ok children ∧ children.map (·.1) = names := by
  unfold Host.list
  rw [asUnavailable_eq_ok]
  cases h.children path with
  | error fault => simp [Except.map]
  | ok children => simp [Except.map]

end Host

namespace Tree
variable {h : Host} {path : Path} {parent s : Standing} {names : List String} {found : List (String × Entry)}

theorem checkEntries_eq_ok : checkEntries h path found = .ok () ↔ ∀ child ∈ found, h.Asked (path.child child.1) child.2 := by
  have asked : ∀ p : Path, (do let _ ← h.isDirectory p : Except DiskFault Unit) = .ok () ↔ ∃ b, h.isDirectory p = .ok b :=
    fun p => by
      rw [bind_eq_ok]
      exact ⟨fun ⟨b, hb, _⟩ => ⟨b, hb⟩, fun ⟨b, hb⟩ => ⟨b, hb, rfl⟩⟩
  have hall : checkEntries h path found = .ok () ↔
      ∀ below ∈ Entry.allDescendants found, ∃ b, h.isDirectory (path.below below.1) = .ok b :=
    forM_eq_ok.trans (forall₂_congr fun below _ => asked (path.below below.1))
  rw [hall]
  constructor
  · intro hall child hc
    refine ⟨?_, fun below hbelow => ?_⟩
    · exact hall ([child.1], child.2) (Entry.mem_allDescendants.mpr ⟨child, hc, Or.inl rfl⟩)
    · rw [Path.child_below]
      have hmem := Entry.mem_allDescendants.mpr ⟨child, hc, Or.inr ⟨below, hbelow, rfl⟩⟩
      exact hall (child.1 :: below.1, below.2) hmem
  · intro hall below hbelow
    obtain ⟨child, hc, rfl | ⟨further, hfurther, rfl⟩⟩ := Entry.mem_allDescendants.mp hbelow
    · exact (hall child hc).1
    · rw [← Path.child_below]
      exact (hall child hc).2 further hfurther

theorem undeclared_eq_ok {children : List (String × Entry)} (hb : h.isDirectory path = .ok true)
    (hc : h.children path = .ok children) : undeclared h path names = .ok found ↔
      found = children.filter (fun child => !names.contains child.1) ∧ checkEntries h path found = .ok () := by
  unfold undeclared
  rw [hb, ok_bind, if_pos rfl, Host.asUnavailable_eq_ok.mpr hc, ok_bind]
  constructor
  · intro hf
    obtain ⟨_, hcheck, hf⟩ := bind_eq_ok.mp hf
    obtain rfl := Except.ok.inj hf
    exact ⟨rfl, hcheck⟩
  · rintro ⟨rfl, hcheck⟩
    exact bind_eq_ok.mpr ⟨(), hcheck, rfl⟩

/-- What is found are the entries of the directory that are not declared, and there are no others. -/
theorem mem_undeclared (hf : undeclared h path names = .ok found) {name : String} {e : Entry} :
    (name, e) ∈ found ↔ h.Holds path name e ∧ name ∉ names := by
  rcases undeclared_inv hf with ⟨hb, rfl⟩ | ⟨hb, -, l, a, children, hl, rfl⟩
  · refine ⟨fun hmem => (nomatch hmem), fun ⟨hholds, _⟩ => ?_⟩
    cases hb.symm.trans hholds.1
  · have hc : h.children path = .ok children := Host.children_eq_ok.mpr ⟨l, a, hl⟩
    rw [List.mem_filter]
    constructor
    · rintro ⟨hmem, hname⟩
      exact ⟨⟨hb, children, hc, hmem⟩, by simpa using hname⟩
    · rintro ⟨⟨-, children', hc', hmem⟩, hname⟩
      obtain rfl : children = children' := Except.ok.inj (hc.symm.trans hc')
      exact ⟨hmem, by simpa using hname⟩

/-- What is not declared can be found if the system can be asked of the path and of each entry that is not declared. -/
theorem exists_undeclared : (∃ found, undeclared h path names = .ok found) ↔
    (∃ b, h.isDirectory path = .ok b) ∧ ∀ name, name ∉ names → ∀ e, h.Holds path name e → h.Asked (path.child name) e := by
  constructor
  · rintro ⟨found, hf⟩
    have hdirectory : ∃ b, h.isDirectory path = .ok b := by
      rcases undeclared_inv hf with ⟨hb, -⟩ | ⟨hb, -⟩
      · exact ⟨false, hb⟩
      · exact ⟨true, hb⟩
    refine ⟨hdirectory, fun name hname e hholds => ?_⟩
    have hmem := (mem_undeclared hf).mpr ⟨hholds, hname⟩
    obtain ⟨hb, children, hc, -⟩ := hholds
    exact checkEntries_eq_ok.mp ((undeclared_eq_ok hb hc).mp hf).2 (name, e) hmem
  · rintro ⟨⟨b, hb⟩, hall⟩
    cases b with
    | false =>
      refine ⟨[], ?_⟩
      unfold undeclared
      rw [hb]
      rfl
    | true =>
      obtain ⟨children, hc⟩ := Host.children_of_isDirectory hb
      refine ⟨_, (undeclared_eq_ok hb hc).mpr ⟨rfl, checkEntries_eq_ok.mpr fun child hmem => ?_⟩⟩
      obtain ⟨hmem, hname⟩ := List.mem_filter.mp hmem
      exact hall child.1 (by simpa using hname) child.2 ⟨hb, children, hc, hmem⟩

/-! ### Nodes name by name -/

/-- The tree of a value of a config at a path below a parent. -/
def ofValue (h : Host) (path : Path) (parent : Standing) (v : Value) : Told TreeFault Tree :=
  ofOutline h path parent (Outline.ofValue v)

/-- What stands under a name of a node: what the config holds there, or else what the directory has. -/
def Under (h : Host) (s : Standing) (name : String) : Option Value → Tree → Prop
  | some v, t => (ofValue h (s.path.child name) s v).outcome = .ok t
  | none, t => ∃ e, h.Holds s.path name e ∧ t = ofEntry (s.moved (s.path.child name)) e

/-- What stands under a name of a node can be built. -/
def CanStand (h : Host) (s : Standing) (name : String) : Option Value → Prop
  | some v => ∃ t, (ofValue h (s.path.child name) s v).outcome = .ok t
  | none => ∀ e, h.Holds s.path name e → h.Asked (s.path.child name) e

theorem mem_walkAll {s : Standing} {ts : List Tree} : s ∈ walkAll ts ↔ ∃ t ∈ ts, s ∈ t.walk := by
  induction ts with
  | nil => simp [walkAll]
  | cons t ts ih => rw [walkAll, List.mem_append, ih, List.exists_mem_cons_iff]

theorem mem_walkAll_ofChildren {s' : Standing} {children : List (String × Entry)} : s' ∈ walkAll (ofChildren s children) ↔
    ∃ child ∈ children, s' ∈ (ofEntry (s.moved (s.path.child child.1)) child.2).walk := by
  rw [mem_walkAll, ofChildren_eq_map]
  simp only [List.mem_map, exists_exists_and_eq_and]

theorem mem_ofDeclared {children : List (String × Outline)} : ∀ {ts : List Tree},
    (ofDeclared h s children).outcome = .ok ts → ∀ {t : Tree},
      t ∈ ts ↔ ∃ child ∈ children, (ofOutline h (s.path.child child.1) s child.2).outcome = .ok t := by
  induction children with
  | nil =>
    intro ts hts t
    obtain rfl := ofDeclared_nil_inv hts
    simp
  | cons child rest ih =>
    intro ts hts t
    obtain ⟨t', more, ht', hmore, rfl⟩ := ofDeclared_cons_inv hts
    rw [List.mem_cons, List.exists_mem_cons_iff, ih hmore, ht', Except.ok.injEq, eq_comm]

theorem exists_ofDeclared {children : List (String × Outline)} : (∃ ts, (ofDeclared h s children).outcome = .ok ts) ↔
    ∀ child ∈ children, ∃ t, (ofOutline h (s.path.child child.1) s child.2).outcome = .ok t := by
  induction children with
  | nil =>
    rw [ofDeclared]
    simp
  | cons child rest ih =>
    rw [List.forall_mem_cons, ← ih, ofDeclared]
    simp only [Told.outcome_bind, bind_eq_ok, Told.outcome_pure, Except.ok.injEq]
    constructor
    · rintro ⟨_, t, ht, ts, hts, rfl⟩
      exact ⟨⟨t, ht⟩, ts, hts⟩
    · rintro ⟨⟨t, ht⟩, ts, hts⟩
      exact ⟨_, t, ht, ts, hts, rfl⟩

/-! ### Built nodes -/

section
variable {v : Value} {settings : Settings} {t : Tree}

theorem named_of_ofValue {source : Entries} {children : List (String × Outline)}
    (hv : Outline.ofValue v = .node source settings children) : (children.map (·.1)).Nodup := by
  have hnamed := Outline.named_ofValue v
  rw [hv] at hnamed
  exact hnamed.1

theorem child?_eq_none {source : Entries} {children : List (String × Outline)}
    (hv : Outline.ofValue v = .node source settings children) {name : String} :
    v.child? name = none ↔ name ∉ children.map (·.1) := by
  have hlookup := Outline.lookup_ofValue hv name
  have hmem := named_of_ofValue hv
  constructor
  · intro hnone hname
    obtain ⟨child, hc, rfl⟩ := List.mem_map.mp hname
    rw [Entry.lookup_of_mem hmem hc, hnone] at hlookup
    cases hlookup
  · intro hname
    cases hchild : v.child? name with
    | none => rfl
    | some w =>
      rw [hchild] at hlookup
      exact absurd (List.mem_map_of_mem (f := (·.1)) (Entry.mem_of_lookup hlookup)) hname

theorem mem_children {source : Entries} {children : List (String × Outline)}
    (hv : Outline.ofValue v = .node source settings children) {name : String} {o : Outline} :
    (name, o) ∈ children ↔ ∃ w, v.child? name = some w ∧ Outline.ofValue w = o := by
  rw [← Option.map_eq_some_iff, ← Outline.lookup_ofValue hv name]
  exact ⟨Entry.lookup_of_mem (named_of_ofValue hv), Entry.mem_of_lookup⟩

/-- A node that is built has its settings in order, and under each name stands what is listed there. -/
theorem ofValue_inv (ht : (ofValue h path parent v).outcome = .ok t) : t.path = path ∧ ∃ settings, v.Says settings ∧
    (derive h path settings parent).outcome = .ok t.standing ∧ (∃ b, h.isDirectory path = .ok b) ∧
    (∀ name, CanStand h t.standing name (v.child? name)) ∧
    ∀ s, s ∈ t.walk ↔ s = t.standing ∨ ∃ name u, Under h t.standing name (v.child? name) u ∧ s ∈ u.walk := by
  obtain ⟨source, settings, children, top, declared, found, hv, hs, hdeclared, hfound, rfl⟩ := ofOutline_inv ht
  obtain ⟨hpath, -, -⟩ := derive_inv hs
  obtain ⟨hdirectory, hasked⟩ := exists_undeclared.mp ⟨found, hfound⟩
  refine ⟨hpath, settings, Outline.says_iff.mpr ⟨source, children, hv⟩, hs, hdirectory, fun name => ?_, fun s => ?_⟩
  · cases hchild : v.child? name with
    | none =>
      intro e hholds
      rw [standing, hpath] at hholds ⊢
      exact hasked name ((child?_eq_none hv).mp hchild) e hholds
    | some w => exact exists_ofDeclared.mp ⟨declared, hdeclared⟩ _ ((mem_children hv).mpr ⟨w, hchild, rfl⟩)
  · rw [walk, List.mem_append, List.mem_append, List.mem_singleton, mem_walkAll, mem_walkAll_ofChildren, or_comm]
    refine or_congr_right ⟨?_, ?_⟩
    · rintro (⟨u, hu, hmem⟩ | ⟨⟨name, e⟩, hc, hmem⟩)
      · obtain ⟨⟨name, o⟩, hc, hu⟩ := (mem_ofDeclared hdeclared).mp hu
        obtain ⟨w, hchild, rfl⟩ := (mem_children hv).mp hc
        exact ⟨name, u, by rw [hchild]; exact hu, hmem⟩
      · obtain ⟨hholds, hname⟩ := (mem_undeclared hfound).mp hc
        refine ⟨name, _, ?_, hmem⟩
        rw [(child?_eq_none hv).mpr hname]
        exact ⟨e, by rw [standing, hpath]; exact hholds, rfl⟩
    · rintro ⟨name, u, hu, hmem⟩
      cases hchild : v.child? name with
      | some w =>
        rw [hchild] at hu
        exact Or.inl ⟨u, (mem_ofDeclared hdeclared).mpr ⟨_, (mem_children hv).mpr ⟨w, hchild, rfl⟩, hu⟩, hmem⟩
      | none =>
        rw [hchild] at hu
        obtain ⟨e, hholds, rfl⟩ := hu
        rw [standing, hpath] at hholds
        exact Or.inr ⟨(name, e), (mem_undeclared hfound).mpr ⟨hholds, (child?_eq_none hv).mp hchild⟩, hmem⟩

/-- A node can be built if its settings are in order and what stands under each name can be built. -/
theorem exists_ofValue (hsaid : v.Says settings) (hs : (derive h path settings parent).outcome = .ok s)
    (hdirectory : ∃ b, h.isDirectory path = .ok b) (hall : ∀ name, CanStand h s name (v.child? name)) :
    ∃ t, (ofValue h path parent v).outcome = .ok t ∧ t.standing = s := by
  obtain ⟨source, children, hv⟩ := Outline.says_iff.mp hsaid
  obtain ⟨rfl, -, -⟩ := derive_inv hs
  have hdeclared : ∀ child ∈ children, ∃ t, (ofOutline h (s.path.child child.1) s child.2).outcome = .ok t := by
    rintro ⟨name, o⟩ hc
    obtain ⟨w, hchild, rfl⟩ := (mem_children hv).mp hc
    have hname := hall name
    rw [hchild] at hname
    exact hname
  have hfree : ∀ name, name ∉ children.map (·.1) → ∀ e, h.Holds s.path name e → h.Asked (s.path.child name) e := by
    intro name hname
    have hasked := hall name
    rw [(child?_eq_none hv).mpr hname] at hasked
    exact hasked
  obtain ⟨declared, hdeclared⟩ := exists_ofDeclared.mpr hdeclared
  obtain ⟨found, hfound⟩ := exists_undeclared.mpr ⟨hdirectory, hfree⟩
  refine ⟨.node s source declared (ofChildren s found), ?_, rfl⟩
  rw [ofValue, hv, ofOutline]
  simp only [Told.outcome_bind, hs, ok_bind, hdeclared, Told.mapFault, Told.outcome_ofExcept, hfound, mapError_ok,
    Told.outcome_pure]

end

/-! ### Nodes that match -/

/-- Each standing of either list is related to one of the other. -/
structure Matches (R : Standing → Standing → Prop) (ss ss' : List Standing) : Prop where
  forth : ∀ s ∈ ss, ∃ s' ∈ ss', R s s'
  back : ∀ s' ∈ ss', ∃ s ∈ ss, R s s'

theorem Matches.refl {R : Standing → Standing → Prop} (hR : ∀ s, R s s) (ss : List Standing) : Matches R ss ss :=
  ⟨fun s hs => ⟨s, hs, hR s⟩, fun s hs => ⟨s, hs, hR s⟩⟩

theorem Matches.imp {R S : Standing → Standing → Prop} (hRS : ∀ {s s'}, R s s' → S s s') {ss ss' : List Standing}
    (h : Matches R ss ss') : Matches S ss ss' :=
  ⟨fun s hs => (h.forth s hs).imp fun _ => And.imp_right hRS, fun s' hs' => (h.back s' hs').imp fun _ => And.imp_right hRS⟩

theorem matches_eq_iff {ss ss' : List Standing} : Matches Eq ss ss' ↔ ∀ s, s ∈ ss ↔ s ∈ ss' := by
  constructor
  · rintro ⟨forth, back⟩ s
    constructor
    · intro hs
      obtain ⟨_, hs', rfl⟩ := forth s hs
      exact hs'
    · intro hs'
      obtain ⟨_, hs, rfl⟩ := back s hs'
      exact hs
  · exact fun h => ⟨fun s hs => ⟨s, (h s).mp hs, rfl⟩, fun s hs => ⟨s, (h s).mpr hs, rfl⟩⟩

/-- What stands under a name of one node matches what stands there of another, and can be built if it can be there. -/
structure SameUnder (R : Standing → Standing → Prop) (h : Host) (s s' : Standing) (name : String)
    (held held' : Option Value) : Prop where
  canStand : CanStand h s' name held'
  forth : ∀ b, Under h s name held b → ∃ b', Under h s' name held' b' ∧ Matches R b.walk b'.walk
  back : ∀ b', Under h s' name held' b' → ∃ b, Under h s name held b ∧ Matches R b.walk b'.walk

section
variable {R : Standing → Standing → Prop} {s s' : Standing} {name : String}

theorem SameUnder.refl (hR : ∀ s, R s s) {held : Option Value} (hstand : CanStand h s name held) :
    SameUnder R h s s name held held :=
  ⟨hstand, fun b hb => ⟨b, hb, .refl hR _⟩, fun b hb => ⟨b, hb, .refl hR _⟩⟩

/-- Only one tree is built under a name, so two that match are enough. -/
theorem sameUnder_of_built {v w : Value} {b b' : Tree} (hb : (ofValue h (s.path.child name) s v).outcome = .ok b)
    (hb' : (ofValue h (s'.path.child name) s' w).outcome = .ok b') (hm : Matches R b.walk b'.walk) :
    SameUnder R h s s' name (some v) (some w) := by
  refine ⟨⟨b', hb'⟩, fun c hc => ?_, fun c' hc' => ?_⟩
  · obtain rfl : c = b := Except.ok.inj (hc.symm.trans hb)
    exact ⟨b', hb', hm⟩
  · obtain rfl : c' = b' := Except.ok.inj (hc'.symm.trans hb')
    exact ⟨b, hb, hm⟩

/-- A value gives nodes that match those of another if its own standing does, and what stands under each name. -/
theorem exists_ofValue_matches {v w : Value} {parent' : Standing} {t : Tree} {settings : Settings}
    (ht : (ofValue h path parent v).outcome = .ok t) (hsaid : w.Says settings)
    (hs' : (derive h path settings parent').outcome = .ok s') (htop : R t.standing s')
    (hsame : ∀ n, SameUnder R h t.standing s' n (v.child? n) (w.child? n)) :
    ∃ u, (ofValue h path parent' w).outcome = .ok u ∧ Matches R t.walk u.walk := by
  obtain ⟨-, _, -, -, hdirectory, -, hwalk⟩ := ofValue_inv ht
  obtain ⟨u, hu, rfl⟩ := exists_ofValue hsaid hs' hdirectory fun n => (hsame n).canStand
  obtain ⟨-, _, -, -, -, -, hwalk'⟩ := ofValue_inv hu
  refine ⟨u, hu, fun s hs => ?_, fun s' hs' => ?_⟩
  · rcases (hwalk s).mp hs with rfl | ⟨n, b, hb, hmem⟩
    · exact ⟨_, (hwalk' _).mpr (Or.inl rfl), htop⟩
    · obtain ⟨b', hb', hm⟩ := (hsame n).forth b hb
      obtain ⟨s', hs', hR⟩ := hm.forth s hmem
      exact ⟨s', (hwalk' s').mpr (Or.inr ⟨n, b', hb', hs'⟩), hR⟩
  · rcases (hwalk' s').mp hs' with rfl | ⟨n, b', hb', hmem⟩
    · exact ⟨_, (hwalk _).mpr (Or.inl rfl), htop⟩
    · obtain ⟨b, hb, hm⟩ := (hsame n).back b' hb'
      obtain ⟨s, hs, hR⟩ := hm.back s' hmem
      exact ⟨s, (hwalk s).mpr (Or.inr ⟨n, b, hb, hs⟩), hR⟩

end

end Tree

end Curfew
