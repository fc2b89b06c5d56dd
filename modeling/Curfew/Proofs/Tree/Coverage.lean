import Curfew.Proofs.Config.Declared
import Curfew.Proofs.Host.Entering
import Curfew.Proofs.Tree.Located
import Mathlib.Data.List.Nodup

/-! What the nodes of a tree cover. A tree lists what its config holds, be it there or not, and what the directories
below the root hold; it lists no path twice, and no node before one below it. -/

namespace Curfew

namespace Tree

/-- The paths of all nodes, in the order of the nodes. -/
def paths (t : Tree) : List Path := t.walk.map (·.path)

theorem mem_map_path_walkAll {p : Path} {ts : List Tree} :
    p ∈ (walkAll ts).map (·.path) ↔ ∃ t ∈ ts, p ∈ t.paths := by
  induction ts with
  | nil => simp [walkAll]
  | cons t ts ih =>
    rw [walkAll, List.map_append, List.mem_append, ih, List.exists_mem_cons_iff]
    rfl

theorem mem_paths_node {p : Path} {top : Standing} {config : Entries} {declared discovered : List Tree} :
    p ∈ (node top config declared discovered).paths ↔
      (∃ t ∈ declared, p ∈ t.paths) ∨ (∃ t ∈ discovered, p ∈ t.paths) ∨ p = top.path := by
  rw [paths, walk, List.map_append, List.map_append, List.mem_append, List.mem_append, mem_map_path_walkAll,
    mem_map_path_walkAll, List.map_singleton, List.mem_singleton, or_assoc]

theorem path_mem_paths (t : Tree) : t.path ∈ t.paths := by
  cases t
  exact mem_paths_node.mpr (Or.inr (Or.inr rfl))

/-! ### What is found -/

theorem ofChildren_eq_map (s : Standing) : ∀ children : List (String × Entry),
    ofChildren s children = children.map fun child => ofEntry (s.moved (s.path.child child.1)) child.2
  | [] => by rw [ofChildren, List.map_nil]
  | child :: rest => by rw [ofChildren, ofChildren_eq_map s rest, List.map_cons]

/-- All below an entry is listed. -/
theorem mem_paths_ofEntry {names : List String} : ∀ {s : Standing} {e f : Entry}, e.get? names = some f →
    s.path.below names ∈ (ofEntry s e).paths := by
  induction names with
  | nil =>
    intro s e f _
    rw [Path.below_nil, ← path_ofEntry s e]
    exact path_mem_paths _
  | cons name names ih =>
    intro s e f hf
    obtain ⟨a, children, child, rfl, hc, hf⟩ := Entry.exists_of_get?_cons hf
    have hbelow : (s.path.child name).below names ∈ (ofEntry (s.moved (s.path.child name)) child).paths := ih hf
    rw [Path.child_below] at hbelow
    rw [ofEntry, ofChildren_eq_map]
    exact mem_paths_node.mpr (Or.inr (Or.inl ⟨_, List.mem_map_of_mem (Entry.mem_of_lookup hc), hbelow⟩))

mutual

/-- What is listed for an entry of a well-formed disk is below it. -/
theorem get?_of_mem_ofEntry : ∀ {e : Entry} {s : Standing}, e.WellFormed → ∀ s' ∈ (ofEntry s e).walk,
    ∃ names f, s'.path = s.path.below names ∧ e.get? names = some f
  | e, s, he, s', hs' => by
    have here : s' = s → ∃ names f, s'.path = s.path.below names ∧ e.get? names = some f := by
      rintro rfl
      exact ⟨[], e, (Path.below_nil _).symm, rfl⟩
    cases e with
    | file a content =>
      refine here ?_
      simpa [ofEntry, walk, walkAll] using hs'
    | link gid target =>
      refine here ?_
      simpa [ofEntry, walk, walkAll] using hs'
    | directory a children =>
      rw [ofEntry, walk, walkAll, List.nil_append, List.mem_append, List.mem_singleton] at hs'
      rcases hs' with hs' | hs'
      · obtain ⟨child, hc, names, f, hpath, hf⟩ := get?_of_mem_ofChildren he.2 s' hs'
        exact ⟨child.1 :: names, f, hpath, by simp [Entry.get?, Entry.lookup_of_mem he.1 hc, hf]⟩
      · exact here hs'

theorem get?_of_mem_ofChildren : ∀ {children : List (String × Entry)} {s : Standing}, Entry.AllWellFormed children →
    ∀ s' ∈ walkAll (ofChildren s children), ∃ child ∈ children, ∃ names f,
      s'.path = s.path.below (child.1 :: names) ∧ child.2.get? names = some f
  | [], _, _, s', hs' => by simp [ofChildren, walkAll] at hs'
  | (name, entry) :: rest, s, h, s', hs' => by
    obtain ⟨-, hentry, hrest⟩ := h
    rw [ofChildren, walkAll, List.mem_append] at hs'
    rcases hs' with hs' | hs'
    · obtain ⟨names, f, hpath, hf⟩ := get?_of_mem_ofEntry hentry s' hs'
      exact ⟨(name, entry), List.mem_cons_self, names, f, hpath.trans (Path.child_below _ _ _), hf⟩
    · obtain ⟨child, hc, hfound⟩ := get?_of_mem_ofChildren hrest s' hs'
      exact ⟨child, List.mem_cons_of_mem _ hc, hfound⟩

end

theorem locate_entered {h : Host} (hd : h.disk.WellFormed) (hs : h.disk.Spelled) {p : Path} {l : Location}
    {a : Attributes} {children : List (String × Entry)} {name : String} {e : Entry} {b : Bool} (hp : p.root ≠ .working)
    (hl : h.locate p true = .ok l) (he : h.disk.get? l = some (.directory a children))
    (hc : children.lookup name = some e) (hb : h.isDirectory (p.child name) = .ok b) :
    h.locate (p.child name) false = .ok (l ++ [name]) ∧
      (Host.isLinkEntry e = false → h.locate (p.child name) true = .ok (l ++ [name])) := by
  have hhere : h.disk.get? (l ++ [name]) = some e := Entry.get?_directory he hc []
  have hsegment := hd.isSegment_of_get? hhere name (by simp)
  exact Host.locate_child hp hl he hc (not_dot_of_isSegment hsegment) (hs.canBeAsked hhere name (by simp)) hb

/-- A path down from a directory leads down from where the directory is, if the system could be asked of each entry on
the way. -/
theorem locate_of_asked {h : Host} (hd : h.disk.WellFormed) (hs : h.disk.Spelled) {names : List String} :
    ∀ {p : Path} {l : Location} {a : Attributes} {children : List (String × Entry)} {name : String} {e f : Entry},
      p.root ≠ .working → h.locate p true = .ok l → h.disk.get? l = some (.directory a children) →
      children.lookup name = some e →
      (∀ names f, e.get? names = some f → ∃ b, h.isDirectory ((p.child name).below names) = .ok b) →
      e.get? names = some f → h.locate ((p.child name).below names) false = .ok (l ++ name :: names) := by
  induction names with
  | nil =>
    intro p l a children name e f hp hl he hc hasked _
    obtain ⟨b, hb⟩ := hasked [] e rfl
    rw [Path.below_nil] at hb ⊢
    exact (locate_entered hd hs hp hl he hc hb).1
  | cons next names ih =>
    intro p l a children name e f hp hl he hc hasked hf
    obtain ⟨b, hb⟩ := hasked [] e rfl
    rw [Path.below_nil] at hb
    obtain ⟨a', children', child, rfl, hchild, hf⟩ := Entry.exists_of_get?_cons hf
    have hl' := (locate_entered hd hs hp hl he hc hb).2 rfl
    have he' : h.disk.get? (l ++ [name]) = some (.directory a' children') := Entry.get?_directory he hc []
    have hdown := ih (p := p.child name) hp hl' he' hchild (fun names f hf => ?_) hf
    · rw [Path.child_below] at hdown
      rw [hdown]
      simp
    · rw [Path.child_below]
      exact hasked (next :: names) f (by simp [Entry.get?, hchild, hf])

theorem path_mem_paths_of_built {h : Host} {path : Path} {parent : Standing} {o : Outline} {t : Tree}
    (ht : (ofOutline h path parent o).outcome = .ok t) : path.below [] ∈ t.paths := by
  obtain ⟨_, _, _, s, _, _, -, hs, -, -, rfl⟩ := ofOutline_inv ht
  obtain ⟨rfl, -, -⟩ := derive_inv hs
  rw [Path.below_nil]
  exact path_mem_paths _

/-- Whether the path of a node is a directory was seen when the node was built. -/
theorem asked_of_built {h : Host} {path : Path} {parent : Standing} {o : Outline} {t : Tree}
    (ht : (ofOutline h path parent o).outcome = .ok t) : ∃ b, h.isDirectory path = .ok b := by
  obtain ⟨_, _, _, _, _, _, -, -, -, hfound, -⟩ := ofOutline_inv ht
  rcases undeclared_inv hfound with ⟨hb, -⟩ | ⟨hb, -⟩
  · exact ⟨false, hb⟩
  · exact ⟨true, hb⟩

/-- What is found at a path is there, if it was found in a directory. -/
theorem stat_of_found {h : Host} (hd : h.disk.WellFormed) (hs : h.disk.Spelled) {top s : Standing} {names : List String}
    {found : List (String × Entry)} (hp : top.path.root ≠ .working) (hf : undeclared h top.path names = .ok found)
    (hmem : s ∈ walkAll (ofChildren top found)) :
    (∃ names, s.path = top.path.below names) ∧ ∃ i, h.stat s.path = .ok i := by
  obtain ⟨-, -, hwell⟩ := undeclared_names hd hf
  obtain ⟨child, hc, below, f, hpath, hget⟩ := get?_of_mem_ofChildren hwell s hmem
  refine ⟨⟨_, hpath⟩, ?_⟩
  rcases undeclared_inv hf with ⟨-, rfl⟩ | ⟨-, hasked, l, a, children, hlook, rfl⟩
  · cases hc
  · obtain ⟨hl, he⟩ := Host.look_eq_ok.mp hlook
    have hdir : (Entry.directory a children).WellFormed := hd.get? he
    have hlookup : children.lookup child.1 = some child.2 := Entry.lookup_of_mem hdir.1 (List.mem_filter.mp hc).1
    have hlocate := locate_of_asked hd hs hp hl he hlookup (fun names g hg => ?_) hget
    · have hthere : h.disk.get? (l ++ child.1 :: below) = some f := (Entry.get?_directory he hlookup below).trans hget
      rw [hpath, ← Path.child_below]
      exact ⟨f.info, Host.stat_eq_ok.mpr ⟨_, hlocate, by simp [Entry.infoAt, hthere]⟩⟩
    · rw [Path.child_below]
      exact hasked (child.1 :: names, g) (Entry.mem_allDescendants_of_get? hc hg)

/-! ### What is declared -/

theorem exists_of_mem_declared {h : Host} {s : Standing} : ∀ {children : List (String × Outline)} {ts : List Tree},
    (ofDeclared h s children).outcome = .ok ts →
      ∀ child ∈ children, ∃ t ∈ ts, (ofOutline h (s.path.child child.1) s child.2).outcome = .ok t
  | [], _, _ => by simp
  | (name, o) :: rest, ts, hts => by
    obtain ⟨t, more, ht, hmore, rfl⟩ := ofDeclared_cons_inv hts
    refine List.forall_mem_cons.mpr ⟨⟨t, List.mem_cons_self, ht⟩, fun child hc => ?_⟩
    obtain ⟨t', ht', hbuilt⟩ := exists_of_mem_declared hmore child hc
    exact ⟨t', List.mem_cons_of_mem _ ht', hbuilt⟩

/-- What a config holds is listed, be it there or not. -/
theorem mem_paths_of_held {h : Host} {names : List String} :
    ∀ {path : Path} {parent : Standing} {v w : Value} {t : Tree},
      (ofOutline h path parent (Outline.ofValue v)).outcome = .ok t → v.at? names = some w →
      path.below names ∈ t.paths := by
  induction names with
  | nil =>
    exact fun ht _ => path_mem_paths_of_built ht
  | cons name names ih =>
    intro path parent v w t ht hw
    obtain ⟨u, hu, hw⟩ := Option.bind_eq_some_iff.mp hw
    obtain ⟨source, settings, children, s, declared, found, ho, hs, hdeclared, -, rfl⟩ := ofOutline_inv ht
    obtain ⟨rfl, -, -⟩ := derive_inv hs
    have hlookup := Outline.lookup_ofValue ho name
    rw [hu] at hlookup
    obtain ⟨t', ht', hbuilt⟩ := exists_of_mem_declared hdeclared _ (Entry.mem_of_lookup hlookup)
    have hbelow := ih hbuilt hw
    rw [Path.child_below] at hbelow
    exact mem_paths_node.mpr (Or.inl ⟨t', ht', hbelow⟩)

/-- What is below a directory is listed, be it declared or not. -/
theorem mem_paths_of_get? {h : Host} (hd : h.disk.WellFormed) (hs : h.disk.Spelled) {names : List String} :
    ∀ {path : Path} {parent : Standing} {o : Outline} {t : Tree} {l : Location} {e f : Entry},
      path.root ≠ .working → (ofOutline h path parent o).outcome = .ok t → h.locate path true = .ok l →
      h.locate path false = .ok l → h.disk.get? l = some e → e.get? names = some f → path.below names ∈ t.paths := by
  induction names with
  | nil =>
    exact fun _ ht _ _ _ _ => path_mem_paths_of_built ht
  | cons name names ih =>
    intro path parent o t l e f hp ht hl hl' he hf
    obtain ⟨a, entries, child, rfl, hc, hchild⟩ := Entry.exists_of_get?_cons hf
    obtain ⟨source, settings, children, s, declared, found, -, hs', hdeclared, hfound, rfl⟩ := ofOutline_inv ht
    obtain ⟨rfl, -, -⟩ := derive_inv hs'
    by_cases hname : name ∈ children.map (·.1)
    · obtain ⟨⟨declaredName, o'⟩, ho', hsame⟩ := List.mem_map.mp hname
      obtain rfl : declaredName = name := hsame
      obtain ⟨t', ht', hbuilt⟩ := exists_of_mem_declared hdeclared _ ho'
      refine mem_paths_node.mpr (Or.inl ⟨t', ht', ?_⟩)
      rw [← Path.child_below]
      cases names with
      | nil => exact path_mem_paths_of_built hbuilt
      | cons next names =>
        -- There is more below the child, so it is no link, and whether it is a directory was asked for its own node.
        obtain ⟨_, _, _, hdirectory, -⟩ := Entry.exists_of_get?_cons hchild
        obtain ⟨b, hb⟩ := asked_of_built hbuilt
        obtain ⟨hthere, hentered⟩ := locate_entered hd hs hp hl he hc hb
        exact ih hp hbuilt (hentered (by rw [hdirectory]; rfl)) hthere (Entry.get?_directory he hc []) hchild
    · have hlook := Host.look_eq_ok.mpr ⟨hl, he⟩
      rcases undeclared_inv hfound with ⟨hb, -⟩ | ⟨-, -, l', a', entries', hlook', rfl⟩
      · cases Host.isDirectory_of_locate hl he hb hl'
      · rw [hlook] at hlook'
        cases hlook'
        have hmem : (name, child) ∈ entries.filter fun child => !(children.map (·.1)).contains child.1 :=
          List.mem_filter.mpr ⟨Entry.mem_of_lookup hc, by simpa using hname⟩
        rw [← Path.child_below, ofChildren_eq_map]
        exact mem_paths_node.mpr (Or.inr (Or.inl ⟨_, List.mem_map_of_mem hmem, mem_paths_ofEntry hchild⟩))

mutual

/-- What is listed is held by the config or is there. -/
theorem held_or_there {h : Host} (hd : h.disk.WellFormed) (hs : h.disk.Spelled) : ∀ {o : Outline} {path : Path}
    {parent : Standing} {v : Value} {t : Tree}, path.root ≠ .working → Outline.ofValue v = o →
      (ofOutline h path parent o).outcome = .ok t →
      ∀ s ∈ t.walk, ∃ names, s.path = path.below names ∧ ((v.at? names).isSome ∨ ∃ i, h.stat s.path = .ok i)
  | .refused _, _, _, _, _, _, _, ht => by
    obtain ⟨_, _, _, _, _, _, ho, -⟩ := ofOutline_inv ht
    cases ho
  | .node source settings children, path, parent, v, t, hp, hv, ht => by
    obtain ⟨_, _, _, top, declared, found, ho, hs', hdeclared, hfound, rfl⟩ := ofOutline_inv ht
    cases ho
    obtain ⟨rfl, -, -⟩ := derive_inv hs'
    have hnamed := Outline.named_ofValue v
    rw [hv] at hnamed
    intro s hmem
    rw [walk, List.mem_append, List.mem_append, List.mem_singleton] at hmem
    rcases hmem with (hmem | hmem) | rfl
    · refine held_or_there_all hd hs hp (fun child hc => ?_) hdeclared s hmem
      have hlookup := Outline.lookup_ofValue hv child.1
      rw [Entry.lookup_of_mem hnamed.1 hc] at hlookup
      exact (Option.map_eq_some_iff.mp hlookup.symm)
    · obtain ⟨⟨names, hpath⟩, hthere⟩ := stat_of_found hd hs hp hfound hmem
      exact ⟨names, hpath, Or.inr hthere⟩
    · exact ⟨[], (Path.below_nil _).symm, Or.inl rfl⟩

theorem held_or_there_all {h : Host} (hd : h.disk.WellFormed) (hs : h.disk.Spelled) : ∀ {children : List (String × Outline)}
    {top : Standing} {v : Value} {ts : List Tree}, top.path.root ≠ .working →
      (∀ child ∈ children, ∃ w, v.child? child.1 = some w ∧ Outline.ofValue w = child.2) →
      (ofDeclared h top children).outcome = .ok ts →
      ∀ s ∈ walkAll ts, ∃ names, s.path = top.path.below names ∧ ((v.at? names).isSome ∨ ∃ i, h.stat s.path = .ok i)
  | [], _, _, _, _, _, hts => by
    obtain rfl := ofDeclared_nil_inv hts
    simp [walkAll]
  | (name, child) :: rest, top, v, ts, hp, hv, hts => by
    obtain ⟨t, more, ht, hmore, rfl⟩ := ofDeclared_cons_inv hts
    obtain ⟨⟨w, hw, hchild⟩, hrest⟩ := List.forall_mem_cons.mp hv
    intro s hmem
    rw [walkAll, List.mem_append] at hmem
    rcases hmem with hmem | hmem
    · have hbelow : (top.path.child name).root ≠ .working := hp
      obtain ⟨names, hpath, hor⟩ := held_or_there hd hs hbelow hchild ht s hmem
      refine ⟨name :: names, hpath.trans (Path.child_below _ _ _), hor.imp (fun hheld => ?_) id⟩
      simpa [Value.at?, hw] using hheld
    · exact held_or_there_all hd hs hp hrest hmore s hmem

end

/-! ### Built trees -/

/-- How a tree covers a config and the disk below its root. -/
structure Covers (h : Host) (config : Value) (t : Tree) : Prop where
  /-- No path is listed twice. -/
  nodup : t.paths.Nodup
  /-- A node comes after all nodes below it. -/
  children_first : t.walk.Pairwise fun s s' => ¬s.path.Above s'.path
  /-- Each entry that directories lead to from the root is listed once, and again only under paths through links. -/
  found : ∃ top, h.locate t.path false = .ok top ∧ ∀ names e, h.disk.get? (top ++ names) = some e →
    t.paths.count (t.path.below names) = 1 ∧ ∀ s ∈ t.walk, h.locate s.path false = .ok (top ++ names) →
      ∃ names', s.path = t.path.below names' ∧ (names' = names ∨ h.disk.LinkOnWay top names')
  /-- Each path that the config holds something at is listed once, be it there or not. -/
  held : ∀ names, (config.at? names).isSome → t.paths.count (t.path.below names) = 1
  /-- Each path that the config declares is listed once, if no two keys give one name. -/
  declared : config.TellsApart → ∀ names, config.Declares names → t.paths.count (t.path.below names) = 1
  /-- A listed path that the config holds nothing at is there. -/
  there : ∀ s ∈ t.walk, ∃ names, s.path = t.path.below names ∧
    ((config.at? names).isSome ∨ ∃ i, h.stat s.path = .ok i)

section
variable {h : Host} {config : Value} {root : Path} {t : Tree}

/-- The node at a location below the root has the names of the location, or a link stands on its way. -/
theorem below_of_locate (hd : h.disk.WellFormed) (hb : (build h config root).outcome = .ok t) {top : Location}
    (htop : h.locate t.path false = .ok top) {s : Standing} (hs : s ∈ t.walk) {names : List String}
    (hl : h.locate s.path false = .ok (top ++ names)) :
    ∃ names', s.path = t.path.below names' ∧ (names' = names ∨ h.disk.LinkOnWay top names') := by
  rw [walk_eq, List.mem_append, List.mem_singleton] at hs
  rcases hs with hs | rfl
  · obtain ⟨top', names', -, hpath, htop', hor⟩ := locate_managed hd hb hs hl
    obtain rfl : top = top' := Except.ok.inj (htop.symm.trans htop')
    exact ⟨names', hpath, hor.imp (fun heq => (List.append_cancel_left heq).symm) id⟩
  · have hsame : top = top ++ names := Except.ok.inj (htop.symm.trans hl)
    obtain rfl : names = [] := by simpa using hsame
    exact ⟨[], (Path.below_nil _).symm, Or.inl rfl⟩

/-- A tree whose root is a directory covers its config and the disk. -/
theorem covers_of_built (hd : h.disk.WellFormed) (hs : h.disk.Spelled) (hb : (build h config root).outcome = .ok t)
    (hroot : h.isDirectory (h.absolute root) = .ok true) : Covers h config t := by
  obtain ⟨hplaced, hpath⟩ := placed_build hd hb
  have hworking := root_build hd hb
  have hnodup : t.paths.Nodup := hplaced.paths_nodup
  obtain ⟨top, a, children, hl, hl', he⟩ := Host.directory_of_isDirectory hroot
  have hbuilt : (ofOutline h t.path (.outermost (h.absolute root)) (Outline.ofValue config)).outcome = .ok t := by
    rw [hpath]
    exact hb
  have held : ∀ names, (config.at? names).isSome → t.paths.count (t.path.below names) = 1 := fun names hn => by
    obtain ⟨w, hw⟩ := Option.isSome_iff_exists.mp hn
    exact List.count_eq_one_of_mem hnodup (mem_paths_of_held hbuilt hw)
  rw [← hpath] at hl hl'
  exact {
    nodup := hnodup
    children_first := hplaced.children_first
    found := ⟨top, hl', fun names e hget => by
      rw [Entry.get?_append, he] at hget
      exact ⟨List.count_eq_one_of_mem hnodup (mem_paths_of_get? hd hs hworking hbuilt hl hl' he hget),
        fun s hmem hl => below_of_locate hd hb hl' hmem hl⟩⟩
    held := held
    declared := fun hapart names ⟨v, hv⟩ => held names (by rw [Value.at?_of_leads hapart hv]; rfl)
    there := held_or_there hd hs hworking rfl hbuilt }

end

/-! ### Keys for one name -/

namespace Renumbered

/-- A course with one file. -/
def host : Host := Trial.host [("notes", Trial.file 0o644)] []

/-- A config with a number and a text for one name. -/
def config : Value :=
  .map [(.int 5, .map [(.text "a", .null)]), (.text "5", .map [(.text "b", .null)])]

end Renumbered

theorem covers_of_built_course : ∃ t, (build Renumbered.host Renumbered.config Trial.root).outcome = .ok t ∧
    Covers Renumbered.host Renumbered.config t ∧ t.paths.count (t.path.below ["5", "b"]) = 1 ∧
    t.paths.count (t.path.below ["notes"]) = 1 := by
  obtain ⟨t, ht, -⟩ : ∃ t, (build Renumbered.host Renumbered.config Trial.root).outcome = .ok t ∧ True :=
    exists_of_built (by decide +kernel)
  have hcovers := covers_of_built (by decide) (by decide) ht (by decide)
  obtain ⟨top, htop, hfound⟩ := hcovers.found
  obtain rfl : top = ["course"] := by
    rw [(placed_build (by decide) ht).2] at htop
    exact Except.ok.inj (htop.symm.trans (by decide +kernel))
  exact ⟨t, ht, hcovers, hcovers.held ["5", "b"] (by decide +kernel), (hfound ["notes"] (Trial.file 0o644) rfl).1⟩

/-- The config declares a path that is not listed. -/
theorem declared_unlisted : Renumbered.config.Declares ["5", "a"] ∧
    ∃ t, (build Renumbered.host Renumbered.config Trial.root).outcome = .ok t ∧
      t.path.below ["5", "a"] ∉ t.paths ∧ t.path.below ["5", "b"] ∈ t.paths := by
  refine ⟨⟨.null, ?_⟩, exists_of_built (by decide +kernel)⟩
  have number : Fragment.childName? (.int 5) = some "5" := by decide +kernel
  have text : Fragment.childName? (.text "a") = some "a" := by decide +kernel
  exact .key List.mem_cons_self number (.key List.mem_cons_self text (.here _))

end Tree

end Curfew
