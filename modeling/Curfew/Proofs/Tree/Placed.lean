import Curfew.Proofs.Config.Names
import Curfew.Proofs.Disk.WellFormed
import Curfew.Proofs.Tree.Build
import Curfew.Proofs.Tree.Steps

/-! Where the nodes of a tree are. Each child lies one name further than its parent, and children of one node
differ in their names; so no two nodes of a tree have the same path. -/

namespace Curfew

/-! ### Paths that part -/

namespace Path

/-- Two paths go on under different names from one path. -/
def Parts (p q : Path) : Prop :=
  ∃ r n m names more, n ≠ m ∧ p = below r (n :: names) ∧ q = below r (m :: more)

theorem Parts.ne {p q : Path} (h : p.Parts q) : p ≠ q := by
  obtain ⟨r, n, m, names, more, hne, rfl, rfl⟩ := h
  simp [below, hne]

theorem Parts.not_above {p q : Path} (h : p.Parts q) : ¬p.Above q := by
  obtain ⟨r, n, m, names, more, hne, rfl, rfl⟩ := h
  rintro ⟨further, -, heq⟩
  simp [below, hne.symm] at heq

end Path

namespace Tree

mutual

/-- The children of each node lie one name further than the node, under names of their own. -/
def Placed : Tree → Prop
  | .node s _ declared discovered =>
    ((declared ++ discovered).map name).Nodup ∧ AllPlaced s.path declared ∧ AllPlaced s.path discovered

def AllPlaced (p : Path) : List Tree → Prop
  | [] => True
  | t :: ts => Fragment.isSegment t.name = true ∧ t.path = p.child t.name ∧ Placed t ∧ AllPlaced p ts

end

/-! ### Placed trees -/

theorem path_child_name {t : Tree} {p : Path} {name : String} (h : t.path = p.child name) : t.name = name := by
  simp [Tree.name, h, Path.child]

mutual

/-- Segments lead from the top of a tree to each of its nodes. -/
theorem Placed.below : ∀ {t : Tree}, t.Placed → ∀ s ∈ t.walk, ∃ names,
    (∀ name ∈ names, Fragment.isSegment name = true) ∧ s.path = t.path.below names
  | .node top config declared discovered, h, s, hs => by
    rw [walk, List.mem_append, List.mem_append, List.mem_singleton] at hs
    obtain ⟨-, hdeclared, hdiscovered⟩ := h
    rcases hs with (hs | hs) | rfl
    · obtain ⟨t, -, names, hnames, hp⟩ := AllPlaced.below hdeclared s hs
      exact ⟨t.name :: names, hnames, hp⟩
    · obtain ⟨t, -, names, hnames, hp⟩ := AllPlaced.below hdiscovered s hs
      exact ⟨t.name :: names, hnames, hp⟩
    · exact ⟨[], by simp, by simp [Path.below, path, standing]⟩

theorem AllPlaced.below : ∀ {p : Path} {ts : List Tree}, AllPlaced p ts → ∀ s ∈ walkAll ts, ∃ t ∈ ts, ∃ names,
    (∀ name ∈ t.name :: names, Fragment.isSegment name = true) ∧ s.path = p.below (t.name :: names)
  | _, [], _, _, hs => by simp [walkAll] at hs
  | p, t :: ts, h, s, hs => by
    rw [walkAll, List.mem_append] at hs
    obtain ⟨hname, hpath, ht, hts⟩ := h
    rcases hs with hs | hs
    · obtain ⟨names, hnames, hp⟩ := Placed.below ht s hs
      refine ⟨t, List.mem_cons_self, names, List.forall_mem_cons.mpr ⟨hname, hnames⟩, ?_⟩
      rw [hp, hpath]
      simp [Path.below, Path.child]
    · obtain ⟨t', ht', hrest⟩ := AllPlaced.below hts s hs
      exact ⟨t', List.mem_cons_of_mem _ ht', hrest⟩

end

theorem AllPlaced.parts {p : Path} {ts us : List Tree} (hts : AllPlaced p ts) (hus : AllPlaced p us)
    (hnames : ∀ t ∈ ts, ∀ u ∈ us, t.name ≠ u.name) {s s' : Standing} (hs : s ∈ walkAll ts) (hs' : s' ∈ walkAll us) :
    s.path.Parts s'.path := by
  obtain ⟨t, ht, names, -, hp⟩ := hts.below s hs
  obtain ⟨u, hu, names', -, hp'⟩ := hus.below s' hs'
  exact ⟨p, t.name, u.name, names, names', hnames t ht u hu, hp, hp'⟩

theorem AllPlaced.above {p : Path} {ts : List Tree} (h : AllPlaced p ts) {s : Standing} (hs : s ∈ walkAll ts) :
    p.Above s.path := by
  obtain ⟨t, -, names, -, hp⟩ := h.below s hs
  exact ⟨t.name :: names, List.cons_ne_nil _ _, hp⟩

mutual

/-- What holds between nodes whose paths part, and between a node and one above it, holds along a tree. -/
theorem Placed.pairwise {R : Standing → Standing → Prop} (hparts : ∀ s s', s.path.Parts s'.path → R s s')
    (habove : ∀ s s', s'.path.Above s.path → R s s') : ∀ {t : Tree}, t.Placed → t.walk.Pairwise R
  | .node top config declared discovered, h => by
    obtain ⟨hnames, hdeclared, hdiscovered⟩ := h
    rw [List.map_append, List.nodup_append] at hnames
    obtain ⟨hd, hf, hapart⟩ := hnames
    rw [walk, List.pairwise_append, List.pairwise_append]
    refine ⟨⟨hdeclared.pairwise hparts habove hd, hdiscovered.pairwise hparts habove hf, ?_⟩, List.pairwise_singleton _ _, ?_⟩
    · intro s hs s' hs'
      refine hparts s s' (hdeclared.parts hdiscovered (fun t ht u hu => ?_) hs hs')
      exact hapart _ (List.mem_map_of_mem ht) _ (List.mem_map_of_mem hu)
    · intro s hs s' hs'
      rw [List.mem_singleton.mp hs']
      exact habove s top ((List.mem_append.mp hs).elim hdeclared.above hdiscovered.above)

theorem AllPlaced.pairwise {R : Standing → Standing → Prop} (hparts : ∀ s s', s.path.Parts s'.path → R s s')
    (habove : ∀ s s', s'.path.Above s.path → R s s') : ∀ {p : Path} {ts : List Tree}, AllPlaced p ts →
      (ts.map name).Nodup → (walkAll ts).Pairwise R
  | _, [], _, _ => by simp [walkAll]
  | p, t :: ts, ⟨hname, hpath, ht, hts⟩, hnames => by
    rw [List.map_cons, List.nodup_cons] at hnames
    have hone : AllPlaced p [t] := ⟨hname, hpath, ht, trivial⟩
    rw [walkAll, List.pairwise_append]
    refine ⟨ht.pairwise hparts habove, hts.pairwise hparts habove hnames.2, fun s hs s' hs' => hparts s s' ?_⟩
    refine hone.parts hts (fun t' ht' u hu heq => hnames.1 ?_) (by simpa [walkAll] using hs) hs'
    rw [← List.mem_singleton.mp ht', heq]
    exact List.mem_map_of_mem hu

end

/-- No two nodes of a tree have the same path. -/
theorem Placed.paths_nodup {t : Tree} (h : t.Placed) : (t.walk.map (·.path)).Nodup :=
  List.pairwise_map.mpr (h.pairwise (fun _ _ => Path.Parts.ne) fun _ _ habove => habove.ne.symm)

/-- Each node comes after all nodes below it. -/
theorem Placed.children_first {t : Tree} (h : t.Placed) : t.walk.Pairwise fun s s' => ¬s.path.Above s'.path :=
  h.pairwise (fun _ _ => Path.Parts.not_above) fun _ _ => Path.Above.asymm

/-- Segments lead from the root to each node that is handled, one at least. -/
theorem Placed.managed_below {t : Tree} (h : t.Placed) {s : Standing} (hs : s ∈ t.managed) :
    ∃ names, names ≠ [] ∧ (∀ name ∈ names, Fragment.isSegment name = true) ∧ s.path = t.path.below names := by
  cases t with
  | node top config declared discovered =>
    obtain ⟨-, hdeclared, hdiscovered⟩ := h
    rcases List.mem_append.mp hs with hs | hs
    · obtain ⟨t, -, names, hnames, hp⟩ := hdeclared.below s hs
      exact ⟨t.name :: names, by simp, hnames, hp⟩
    · obtain ⟨t, -, names, hnames, hp⟩ := hdiscovered.below s hs
      exact ⟨t.name :: names, by simp, hnames, hp⟩

/-! ### Trees of entries -/

theorem path_ofEntry (s : Standing) (e : Entry) : (ofEntry s e).path = s.path := by
  cases e <;> simp [ofEntry, path, standing]

theorem names_ofChildren (s : Standing) (children : List (String × Entry)) :
    (ofChildren s children).map name = children.map (·.1) := by
  induction children with
  | nil => simp [ofChildren]
  | cons child rest ih =>
    rw [ofChildren, List.map_cons, List.map_cons, ih,
      path_child_name (path_ofEntry (s.moved (s.path.child child.1)) child.2)]

mutual

theorem placed_ofEntry : ∀ (s : Standing) {e : Entry}, e.WellFormed → (ofEntry s e).Placed
  | s, .file _ _, _ => by simp [ofEntry, Placed, AllPlaced]
  | s, .directory _ children, h => by
    rw [ofEntry]
    refine ⟨?_, trivial, allPlaced_ofChildren s h.2⟩
    rw [List.nil_append, names_ofChildren]
    exact h.1
  | s, .link _ _, _ => by simp [ofEntry, Placed, AllPlaced]

theorem allPlaced_ofChildren : ∀ (s : Standing) {children : List (String × Entry)}, Entry.AllWellFormed children →
    AllPlaced s.path (ofChildren s children)
  | _, [], _ => by
    rw [ofChildren]
    trivial
  | s, (name, entry) :: rest, h => by
    obtain ⟨hname, hentry, hrest⟩ := h
    have hpath := path_ofEntry (s.moved (s.path.child name)) entry
    have hn : (ofEntry (s.moved (s.path.child name)) entry).name = name := path_child_name hpath
    rw [ofChildren]
    exact ⟨by rw [hn]; exact hname, by rw [hn, hpath]; rfl, placed_ofEntry _ hentry, allPlaced_ofChildren s hrest⟩

end

/-! ### Built trees -/

/-- What is found in a directory of a well-formed disk has names of its own, none of them declared. -/
theorem undeclared_names {h : Host} {path : Path} {names : List String} {found : List (String × Entry)}
    (hd : h.disk.WellFormed) (hf : undeclared h path names = .ok found) :
    (found.map (·.1)).Nodup ∧ (∀ name ∈ found.map (·.1), name ∉ names) ∧ Entry.AllWellFormed found := by
  rcases undeclared_inv hf with ⟨-, rfl⟩ | ⟨-, -, l, a, children, hl, rfl⟩
  · exact ⟨by simp, by simp, trivial⟩
  · obtain ⟨-, he⟩ := Host.look_eq_ok.mp hl
    have hw : (Entry.directory a children).WellFormed := hd.get? he
    refine ⟨hw.1.sublist (List.filter_sublist.map _), ?_, ?_⟩
    · intro name hname
      obtain ⟨child, hc, rfl⟩ := List.mem_map.mp hname
      simpa using (List.mem_filter.mp hc).2
    · exact Entry.allWellFormed_iff.mpr fun child hc => Entry.allWellFormed_iff.mp hw.2 child (List.mem_filter.mp hc).1

mutual

theorem placed_ofOutline {h : Host} (hd : h.disk.WellFormed) : ∀ {o : Outline} {path : Path} {parent : Standing} {t : Tree},
    o.Named → (ofOutline h path parent o).outcome = .ok t → t.Placed ∧ t.path = path
  | .refused _, _, _, _, _, ht => by
    obtain ⟨_, _, _, _, _, _, ho, -⟩ := ofOutline_inv ht
    cases ho
  | .node source settings children, path, parent, t, hn, ht => by
    obtain ⟨_, _, _, s, declared, found, ho, hs, hdeclared, hfound, rfl⟩ := ofOutline_inv ht
    cases ho
    obtain ⟨rfl, -, -⟩ := derive_inv hs
    obtain ⟨hplaced, hnames⟩ := allPlaced_ofDeclared hd hn.2 hdeclared
    obtain ⟨hdistinct, hfree, hfoundw⟩ := undeclared_names hd hfound
    refine ⟨⟨?_, hplaced, allPlaced_ofChildren s hfoundw⟩, rfl⟩
    rw [List.map_append, hnames, names_ofChildren, List.nodup_append]
    refine ⟨hn.1, hdistinct, ?_⟩
    rintro a ha b hb rfl
    exact hfree a hb ha

theorem allPlaced_ofDeclared {h : Host} (hd : h.disk.WellFormed) : ∀ {children : List (String × Outline)} {s : Standing}
    {ts : List Tree}, Outline.AllNamed children → (ofDeclared h s children).outcome = .ok ts →
      AllPlaced s.path ts ∧ ts.map name = children.map (·.1)
  | [], _, _, _, hts => by
    obtain rfl := ofDeclared_nil_inv hts
    exact ⟨trivial, rfl⟩
  | (name, child) :: rest, s, ts, hn, hts => by
    obtain ⟨t, more, ht, hmore, rfl⟩ := ofDeclared_cons_inv hts
    obtain ⟨hname, hchild, hrest⟩ := hn
    obtain ⟨hplaced, hpath⟩ := placed_ofOutline hd hchild ht
    obtain ⟨hmoreplaced, hnames⟩ := allPlaced_ofDeclared hd hrest hmore
    have hn : t.name = name := path_child_name hpath
    exact ⟨⟨by rw [hn]; exact hname, by rw [hn]; exact hpath, hplaced, hmoreplaced⟩, by simp [hn, hnames]⟩

end

variable {h : Host} {config : Value} {root : Path} {t : Tree}

/-- A tree built on a well-formed disk has its nodes in their places. -/
theorem placed_build (hd : h.disk.WellFormed) (hb : (build h config root).outcome = .ok t) :
    t.Placed ∧ t.path = h.absolute root := by
  unfold build at hb
  exact placed_ofOutline hd (Outline.named_ofValue config) hb

theorem root_build (hd : h.disk.WellFormed) (hb : (build h config root).outcome = .ok t) : t.path.root ≠ .working := by
  rw [(placed_build hd hb).2]
  exact h.absolute_root root

end Tree

end Curfew
