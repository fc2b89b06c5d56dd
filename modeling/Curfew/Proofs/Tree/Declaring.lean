import Curfew.Proofs.Config.Differing
import Curfew.Proofs.Tree.Branches
import Curfew.Proofs.Tree.Matching

/-! Declaring what is found. An entry that is declared with nothing of its own gets the nodes that it would have got
undeclared, so a run does the same, in another order at most. -/

namespace Curfew

namespace Host
variable {h : Host} {p : Path} {name : String} {e : Entry}

theorem Asked.child {a : Attributes} {children : List (String × Entry)} (hasked : h.Asked p (.directory a children))
    {n : String} {e : Entry} (hmem : (n, e) ∈ children) : h.Asked (p.child n) e := by
  obtain ⟨-, hbelow⟩ := hasked
  rw [Entry.descendants] at hbelow
  refine ⟨?_, fun below hmore => ?_⟩
  · exact hbelow ([n], e) (Entry.mem_allDescendants.mpr ⟨_, hmem, Or.inl rfl⟩)
  · rw [Path.child_below]
    exact hbelow (n :: below.1, below.2) (Entry.mem_allDescendants.mpr ⟨_, hmem, Or.inr ⟨below, hmore, rfl⟩⟩)

theorem Holds.lookup (hd : h.disk.WellFormed) (hholds : h.Holds p name e) : ∃ l a entries,
    h.look p true = .ok (l, .directory a entries) ∧ entries.lookup name = some e ∧ Fragment.isSegment name = true := by
  obtain ⟨-, entries, hentries, hmem⟩ := hholds
  obtain ⟨l, a, hlook⟩ := children_eq_ok.mp hentries
  have hentry := hd.get? (look_eq_ok.mp hlook).2
  exact ⟨l, a, entries, hlook, Entry.lookup_of_mem hentry.1 hmem, (Entry.allWellFormed_iff.mp hentry.2 _ hmem).1⟩

theorem Holds.unique (hd : h.disk.WellFormed) {e' : Entry} (hholds : h.Holds p name e) (hholds' : h.Holds p name e') :
    e = e' := by
  obtain ⟨l, a, entries, hlook, hlookup, -⟩ := hholds.lookup hd
  obtain ⟨l', a', entries', hlook', hlookup', -⟩ := hholds'.lookup hd
  cases hlook.symm.trans hlook'
  exact Option.some.inj (hlookup.symm.trans hlookup')

/-- What the directory at a path of one more name holds are the entries of the entry under the name. -/
theorem holds_child (hd : h.disk.WellFormed) (hs : h.disk.Spelled) (hp : p.root ≠ .working) (hholds : h.Holds p name e)
    (hasked : ∃ b, h.isDirectory (p.child name) = .ok b) {n : String} {e' : Entry} :
    h.Holds (p.child name) n e' ↔ ∃ a children, e = .directory a children ∧ (n, e') ∈ children := by
  obtain ⟨l, a, entries, hlook, hlookup, -⟩ := hholds.lookup hd
  obtain ⟨hl, hat⟩ := look_eq_ok.mp hlook
  obtain ⟨b, hb⟩ := hasked
  have hhere : h.disk.get? (l ++ [name]) = some e := Entry.get?_directory hat hlookup []
  obtain ⟨hthere, hentered⟩ := Tree.locate_entered hd hs hp hl hat hlookup hb
  constructor
  · rintro ⟨hdirectory, children, hchildren, hmem'⟩
    obtain ⟨l', a', children', hl', hunfollowed, hat'⟩ := directory_of_isDirectory hdirectory
    obtain rfl : l' = l ++ [name] := Except.ok.inj (hunfollowed.symm.trans hthere)
    obtain rfl : e = .directory a' children' := Option.some.inj (hhere.symm.trans hat')
    have hsame : h.children (p.child name) = .ok children' := children_eq_ok.mpr ⟨_, a', look_eq_ok.mpr ⟨hl', hat'⟩⟩
    obtain rfl := Except.ok.inj (hchildren.symm.trans hsame)
    exact ⟨a', children, rfl, hmem'⟩
  · rintro ⟨a', children', rfl, hmem'⟩
    have hl' := hentered rfl
    obtain rfl := isDirectory_of_locate hl' hhere hb hthere
    exact ⟨hb, children', children_eq_ok.mpr ⟨_, a', look_eq_ok.mpr ⟨hl', hhere⟩⟩, hmem'⟩

end Host

namespace Tree
variable {h : Host} {s : Standing} {name : String} {key : Value}

theorem derive_empty (h : Host) (path : Path) (s : Standing) : (derive h path .empty s).outcome = .ok (s.moved path) := by
  simp only [derive, Settings.empty, Directives.empty, expandAll, Told.outcome_bind, Told.outcome_pure, ok_bind,
    Standing.derivePolicies, Standing.moved, Option.map_none, Option.toList_none, List.nil_append, List.map_nil,
    List.append_nil, Option.getD_none]

/-- The node of an entry that is declared with nothing of its own has the nodes of the entry undeclared. -/
theorem exists_ofValue_of_empty (hd : h.disk.WellFormed) (hs : h.disk.Spelled) (hp : s.path.root ≠ .working) {e : Entry}
    (hholds : h.Holds s.path name e) (hasked : h.Asked (s.path.child name) e) {u : Value} (hu : u = .null ∨ u = .map []) :
    ∃ t, (ofValue h (s.path.child name) s u).outcome = .ok t ∧
      Matches Eq (ofEntry (s.moved (s.path.child name)) e).walk t.walk := by
  have hholds' : ∀ n e', h.Holds (s.path.child name) n e' ↔ _ := fun n e' =>
    Host.holds_child hd hs hp hholds hasked.1
  obtain ⟨t, ht, hstanding⟩ := exists_ofValue (Value.says_of_empty hu) (derive_empty h (s.path.child name) s) hasked.1
    fun n => by
      rw [Value.child?_of_empty hu]
      intro e' hbelow
      obtain ⟨a, children, rfl, hmem⟩ := (hholds' n e').mp hbelow
      exact hasked.child hmem
  obtain ⟨-, _, -, -, -, -, hwalk⟩ := ofValue_inv ht
  refine ⟨t, ht, matches_eq_iff.mpr fun s' => Iff.symm ?_⟩
  simp only [hwalk s', hstanding, Value.child?_of_empty hu, Under, Standing.moved, hholds']
  cases e with
  | directory a children =>
    rw [ofEntry, walk, walkAll, List.nil_append, List.mem_append, List.mem_singleton, mem_walkAll_ofChildren, or_comm]
    refine or_congr_left ⟨?_, ?_⟩
    · rintro ⟨n, _, ⟨e', ⟨_, _, heq, hmem⟩, rfl⟩, hs'⟩
      cases heq
      exact ⟨(n, e'), hmem, hs'⟩
    · rintro ⟨⟨n, e'⟩, hmem, hs'⟩
      exact ⟨n, _, ⟨e', ⟨a, children, rfl, hmem⟩, rfl⟩, hs'⟩
  | file => simp [ofEntry, walk, walkAll]
  | link => simp [ofEntry, walk, walkAll]

/-- A tree whose config gains an entry that is there has the same nodes. -/
theorem exists_ofValue_of_gains (hd : h.disk.WellFormed) (hs : h.disk.Spelled) (hname : Fragment.childName? key = some name)
    {names : List String} {v w : Value} (hdiffers : v.Differs (Value.Gains key) names w) :
    ∀ {path : Path} {parent : Standing} {t : Tree} {e : Entry}, path.root ≠ .working →
      (ofValue h path parent v).outcome = .ok t → h.Holds (path.below names) name e → v.at? (names ++ [name]) = none →
      ∃ u, (ofValue h path parent w).outcome = .ok u ∧ Matches Eq t.walk u.walk := by
  induction names generalizing v w with
  | nil =>
    intro path parent t e hp ht hholds hfree
    obtain ⟨rfl, settings, hv, hderived, -, hstand, -⟩ := ofValue_inv ht
    rw [Path.below_nil] at hholds
    have hfree : v.child? name = none := by
      simpa [Value.at?] using hfree
    have hgains : Value.Gains key v w := by
      cases hdiffers
      assumption
    obtain ⟨hothers, x, hx, hempty⟩ := Value.child?_of_gains hname hgains hfree
    have hasked : h.Asked (t.path.child name) e := by
      have hfound := hstand name
      rw [hfree] at hfound
      exact hfound e hholds
    obtain ⟨below, hbelow, hwalk⟩ := exists_ofValue_of_empty hd hs hp hholds hasked hempty
    obtain ⟨-, -, -, -, -, hsegment⟩ := hholds.lookup hd
    refine exists_ofValue_matches ht (Value.says_of_gains hname hsegment hgains hv) hderived rfl fun n => ?_
    by_cases hn : n = name
    · subst hn
      rw [hx, hfree]
      refine ⟨⟨below, hbelow⟩, ?_, fun b hb => ?_⟩
      · rintro _ ⟨e', hholds', rfl⟩
        obtain rfl := hholds'.unique hd hholds
        exact ⟨below, hbelow, hwalk⟩
      · obtain rfl : b = below := Except.ok.inj (hb.symm.trans hbelow)
        exact ⟨_, ⟨e, hholds, rfl⟩, hwalk⟩
    · rw [hothers n hn]
      exact .refl (fun _ => rfl) (hstand n)
  | cons next names ih =>
    intro path parent t e hp ht hholds hfree
    obtain ⟨rfl, settings, hv, hderived, -, hstand, -⟩ := ofValue_inv ht
    obtain ⟨hothers, hchild⟩ := Value.child?_of_differs hdiffers
    refine exists_ofValue_matches ht (Value.says_of_differs hdiffers hv) hderived rfl fun n => ?_
    by_cases hn : n = next
    · subst hn
      rcases hchild with hsame | ⟨x, y, hx, hy, hbelow⟩
      · rw [← hsame]
        exact .refl (fun _ => rfl) (hstand n)
      · have hbuilt := hstand n
        rw [hx] at hbuilt
        obtain ⟨b, hb⟩ := hbuilt
        rw [← Path.child_below] at hholds
        rw [List.cons_append, Value.at?, hx, Option.bind_some] at hfree
        have hchildroot : (t.path.child n).root ≠ .working := hp
        obtain ⟨u, hu, hm⟩ := ih hbelow hchildroot hb hholds hfree
        rw [hx, hy]
        exact sameUnder_of_built hb hu hm
    · rw [← hothers n hn]
      exact .refl (fun _ => rfl) (hstand n)

/-- An entry that the directory of a declared node or of the root holds and the config does not declare may be declared
with nothing of its own: the tree has the same nodes with the same standings, and where no link stands above a node,
runs have the same effect. -/
theorem sameEffect_of_gains {h₀ : Host} {config config' : Value} {root : Path} {t : Tree} {names listed : List String}
    (hd : h₀.disk.WellFormed) (hs : h₀.disk.Spelled) (hb : (build h₀ config root).outcome = .ok t)
    (hdirectory : h₀.isDirectory (t.path.below names) = .ok true) (hlist : h₀.list (t.path.below names) = .ok listed)
    (hlisted : name ∈ listed) (hfree : config.at? (names ++ [name]) = none) (hname : Fragment.childName? key = some name)
    (hdiffers : config.Differs (Value.Gains key) names config') :
    ∃ t', (build h₀ config' root).outcome = .ok t' ∧ (∀ s, s ∈ t.walk ↔ s ∈ t'.walk) ∧
      ∀ h clock isDryRun, (∀ s ∈ t.managed, h.Unlinked s.path) →
        (t.apply h clock isDryRun).SameEffect (t'.apply h clock isDryRun) := by
  obtain ⟨children, hchildren, rfl⟩ := Host.list_eq_ok.mp hlist
  obtain ⟨⟨_, e⟩, hmem, rfl⟩ := List.mem_map.mp hlisted
  have hpath := (placed_build hd hb).2
  rw [hpath] at hdirectory hchildren
  obtain ⟨t', hb', hm⟩ := exists_ofValue_of_gains hd hs hname hdiffers (h₀.absolute_root root) hb
    ⟨hdirectory, children, hchildren, hmem⟩ hfree
  refine ⟨t', hb', matches_eq_iff.mp hm, fun h clock isDryRun hu => ?_⟩
  exact sameEffect_of_built hd hb hb' (hm.imp fun {s _} => by rintro rfl; exact .refl s) hu clock isDryRun

/-! ### A file that is declared -/

namespace Declared

/-- A course with a file in a directory. -/
def host : Host := Trial.host [("hall", .directory { mode := 0o755, gid := 0 } [("map", Trial.file 0o644)])] []

/-- A config with a mode for all that declares the directory. -/
def config (hall : Value) : Value := .map ([] ++ (.text "hall", hall) :: [(.text "mode", .text "0600")])

end Declared

theorem sameEffect_of_gains_course : ∃ t t', (build Declared.host (Declared.config .null) Trial.root).outcome = .ok t ∧
    (build Declared.host (Declared.config (.map [(.text "map", .null)])) Trial.root).outcome = .ok t' ∧
    (∀ s, s ∈ t.walk ↔ s ∈ t'.walk) ∧
    (t.apply Declared.host Trial.clock false).SameEffect (t'.apply Declared.host Trial.clock false) := by
  obtain ⟨t, ht, hu, hdirectory, hlist⟩ : ∃ t, (build Declared.host (Declared.config .null) Trial.root).outcome = .ok t ∧
      (∀ s ∈ t.managed, Declared.host.Unlinked s.path) ∧
      (Declared.host.isDirectory (t.path.below ["hall"])).toOption = some true ∧
      (Declared.host.list (t.path.below ["hall"])).toOption = some ["map"] :=
    exists_of_built (by decide +kernel)
  have hall : Fragment.childName? (.text "hall") = some "hall" := by decide +kernel
  have map : Fragment.childName? (.text "map") = some "map" := by decide +kernel
  have hgains : Value.Gains (.text "map") .null (.map ([] ++ (.text "map", .null) :: [])) := .intro rfl (Or.inl rfl)
  obtain ⟨t', ht', hwalk, hsame⟩ := sameEffect_of_gains (by decide) (by decide) ht (toOption_eq_some.mp hdirectory)
    (toOption_eq_some.mp hlist) List.mem_cons_self rfl map (.key hall (.here hgains))
  exact ⟨t, t', ht, ht', hwalk, hsame _ _ false hu⟩

end Tree

end Curfew
