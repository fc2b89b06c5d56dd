import Curfew.Proofs.Tree.Agreement
import Curfew.Proofs.Tree.Declaring

/-! That the construction of a tree ends. A node constructs each child by a call of its own: first along the config, be
there links or not, and then along the disk, where links are not gone down into. So below the last declared node each
call is one entry deeper in a real directory, and the config and the disk together bound how deep the calls go. -/

namespace Curfew

/-! ### Calls of a bounded depth -/

section
variable {ε α β : Type}

/-- A result or a fault that came before the depth ran out. -/
def reached (x : Except ε α) : ExceptT ε Option α := ExceptT.mk (some x)

theorem reached_bind (x : Except ε α) (f : α → Except ε β) :
    (reached x >>= fun a => reached (f a)) = reached (x >>= f) := by
  cases x <;> rfl

theorem reached_ok_bind (a : α) (f : α → ExceptT ε Option β) : (reached (.ok a) >>= f) = f a := rfl

theorem reached_mapM {f : α → ExceptT ε Option β} {g : α → Except ε β} {as : List α} (h : ∀ a ∈ as, f a = reached (g a)) :
    as.mapM f = reached (as.mapM g) := by
  induction as with
  | nil => rfl
  | cons a as ih =>
    obtain ⟨ha, has⟩ := List.forall_mem_cons.mp h
    rw [List.mapM_cons, List.mapM_cons, ha, ih has, ← reached_bind]
    congr 1
    funext b
    exact reached_bind (as.mapM g) fun bs => .ok (b :: bs)

end

/-! ### Depths -/

namespace Outline

mutual

/-- How many nodes stand above one another in an outline. -/
def depth : Outline → Nat
  | .refused _ => 1
  | .node _ _ children => 1 + depthAll children

def depthAll : List (String × Outline) → Nat
  | [] => 0
  | (_, child) :: rest => max (depth child) (depthAll rest)

end

theorem depth_pos (o : Outline) : 0 < o.depth := by
  cases o <;> rw [depth] <;> omega

theorem depth_le_of_mem {child : String × Outline} : ∀ {children : List (String × Outline)}, child ∈ children →
    child.2.depth ≤ depthAll children
  | c :: rest, hc => by
    rw [depthAll]
    rcases List.mem_cons.mp hc with rfl | hc
    · exact Nat.le_max_left _ _
    · exact Nat.le_trans (depth_le_of_mem hc) (Nat.le_max_right _ _)

end Outline

namespace Entry

mutual

/-- How many entries stand above one another in a directory, with the directory itself. -/
def height : Entry → Nat
  | .file _ _ => 1
  | .directory _ children => 1 + heightAll children
  | .link _ _ => 1

def heightAll : List (String × Entry) → Nat
  | [] => 0
  | (_, entry) :: rest => max (height entry) (heightAll rest)

end

theorem height_pos (e : Entry) : 0 < e.height := by
  cases e <;> rw [height] <;> omega

theorem height_le_of_mem {child : String × Entry} : ∀ {children : List (String × Entry)}, child ∈ children →
    child.2.height ≤ heightAll children
  | c :: rest, hc => by
    rw [heightAll]
    rcases List.mem_cons.mp hc with rfl | hc
    · exact Nat.le_max_left _ _
    · exact Nat.le_trans (height_le_of_mem hc) (Nat.le_max_right _ _)

theorem height_get?_le {names : List String} : ∀ {e f : Entry}, e.get? names = some f → f.height ≤ e.height := by
  induction names with
  | nil =>
    intro e f hf
    cases hf
    exact Nat.le_refl _
  | cons name names ih =>
    intro e f hf
    obtain ⟨a, children, child, rfl, hc, hf⟩ := exists_of_get?_cons hf
    rw [height]
    have hchild : child.height ≤ heightAll children := height_le_of_mem (mem_of_lookup hc)
    have hbelow := ih hf
    omega

theorem descendants_le_of_mem {child : String × Entry} : ∀ {children : List (String × Entry)}, child ∈ children →
    child.2.descendants.length ≤ (allDescendants children).length
  | (name, e) :: rest, hc => by
    rw [allDescendants, List.length_append, List.length_cons, List.length_map]
    rcases List.mem_cons.mp hc with rfl | hc
    · dsimp only
      omega
    · have hrest := descendants_le_of_mem hc
      omega

theorem length_allDescendants_filter_le (p : String × Entry → Bool) (children : List (String × Entry)) :
    (allDescendants (children.filter p)).length ≤ (allDescendants children).length := by
  induction children with
  | nil => exact Nat.le_refl _
  | cons child rest ih =>
    rw [List.filter_cons]
    split <;> simp only [allDescendants, List.length_append] <;> omega

theorem descendants_get?_le {names : List String} : ∀ {e f : Entry}, e.get? names = some f →
    f.descendants.length ≤ e.descendants.length := by
  induction names with
  | nil =>
    intro e f hf
    cases hf
    exact Nat.le_refl _
  | cons name names ih =>
    intro e f hf
    obtain ⟨a, children, child, rfl, hc, hf⟩ := exists_of_get?_cons hf
    have hchild : child.descendants.length ≤ (allDescendants children).length := descendants_le_of_mem (mem_of_lookup hc)
    rw [descendants]
    exact Nat.le_trans (ih hf) hchild

end Entry

theorem Host.Holds.height_lt {h : Host} {path : Path} {name : String} {e : Entry} (hd : h.disk.WellFormed)
    (hholds : h.Holds path name e) : e.height < h.disk.height := by
  obtain ⟨l, a, entries, hlook, hlookup, -⟩ := hholds.lookup hd
  have hdirectory := Entry.height_get?_le (Host.look_eq_ok.mp hlook).2
  have hchild : e.height ≤ Entry.heightAll entries := Entry.height_le_of_mem (Entry.mem_of_lookup hlookup)
  rw [Entry.height] at hdirectory
  omega

namespace Tree

/-- The names that a directory lists and a config does not declare; none unless it is a real directory. -/
def undeclaredNames (h : Host) (path : Path) (declared : List String) : Except DiskFault (List String) := do
  if ← h.isDirectory path then
    let names ← h.list path
    return names.filter fun name => !declared.contains name
  else return []

/-- The construction of a node, call by call and no deeper than allowed: each child is a node constructed at a path of
one more name, from what the config declares under the name, or else from nothing because the directory lists it. -/
def construct (h : Host) : Nat → Path → Standing → Outline → ExceptT TreeFault Option Tree
  | 0, _, _, _ => ExceptT.mk none
  | _ + 1, path, _, .refused fault => reached (.error (.config ⟨path.text, fault⟩))
  | depth + 1, path, parent, .node source settings children => do
    let s ← reached (derive h path settings parent).outcome
    let declared ← children.mapM fun child => construct h depth (s.path.child child.1) s child.2
    let names ← reached ((undeclaredNames h path (children.map (·.1))).mapError .disk)
    let discovered ← names.mapM fun name => construct h depth (s.path.child name) s .empty
    return .node s source declared discovered

/-! ### What is found -/

section
variable {h : Host} {path : Path} {s : Standing}

/-- Asks of an entry and of each one below it whether it is a directory to go down into. -/
def checkEntry (h : Host) (path : Path) (e : Entry) : Except DiskFault Unit := do
  let _ ← h.isDirectory path
  e.descendants.forM fun found => do
    let _ ← h.isDirectory (path.below found.1)

/-- The node of an entry of the directory of a node, if the system could be asked of it and of each one below. -/
def entered (h : Host) (s : Standing) (child : String × Entry) : Except TreeFault Tree :=
  ((checkEntry h (s.path.child child.1) child.2).mapError .disk).map fun _ =>
    ofEntry (s.moved (s.path.child child.1)) child.2

theorem checkEntries_cons (name : String) (e : Entry) (rest : List (String × Entry)) :
    checkEntries h path ((name, e) :: rest) = (do checkEntry h (path.child name) e; checkEntries h path rest) := by
  have hchild : path.below [name] = path.child name := rfl
  simp only [checkEntries, checkEntry, Entry.allDescendants, List.forM_eq_forM, List.cons_append, List.forM_cons, List.forM_append,
    List.forM_map, bind_assoc, pure_bind, Path.child_below, hchild]

theorem mapM_entered (s : Standing) (found : List (String × Entry)) : found.mapM (entered h s) =
    ((checkEntries h s.path found).mapError .disk).map fun _ => ofChildren s found := by
  induction found with
  | nil => rfl
  | cons child rest ih =>
    obtain ⟨name, e⟩ := child
    rw [List.mapM_cons, ih, checkEntries_cons, ofChildren, entered]
    cases checkEntry h (s.path.child name) e with
    | error fault => rfl
    | ok _ => cases checkEntries h s.path rest <;> rfl

theorem undeclaredNames_error {fault : DiskFault} (hb : h.isDirectory path = .error fault) (declared : List String) :
    undeclaredNames h path declared = .error fault ∧ undeclared h path declared = .error fault := by
  simp [undeclaredNames, undeclared, hb, bind, Except.bind]

theorem undeclaredNames_false (hb : h.isDirectory path = .ok false) (declared : List String) :
    undeclaredNames h path declared = .ok [] ∧ undeclared h path declared = .ok [] := by
  simp [undeclaredNames, undeclared, hb, ok_bind, pure, Except.pure]

theorem undeclaredNames_true {children : List (String × Entry)} (hb : h.isDirectory path = .ok true)
    (hc : h.children path = .ok children) (declared : List String) :
    undeclaredNames h path declared = .ok ((children.filter fun child => !declared.contains child.1).map (·.1)) ∧
      undeclared h path declared = (checkEntries h path (children.filter fun child => !declared.contains child.1)).map
        fun _ => children.filter fun child => !declared.contains child.1 := by
  constructor
  · rw [undeclaredNames, hb, ok_bind, if_pos rfl, Host.list_eq_ok.mpr ⟨children, hc, rfl⟩, ok_bind, List.filter_map]
    rfl
  · rw [undeclared, hb, ok_bind, if_pos rfl, Host.asUnavailable_eq_ok.mpr hc, ok_bind]
    dsimp only
    cases checkEntries h path (children.filter fun child => !declared.contains child.1) <;> rfl

/-- The names of a directory give the nodes of its entries, if each name gives that of its entry. -/
theorem discovered_eq {depth : Nat} (hchild : ∀ name e, h.Holds s.path name e →
    construct h depth (s.path.child name) s .empty = reached (entered h s (name, e))) (declared : List String)
    (source : Entries) (ts : List Tree) : (do
        let names ← reached ((undeclaredNames h s.path declared).mapError .disk)
        let discovered ← names.mapM fun name => construct h depth (s.path.child name) s .empty
        return node s source ts discovered) =
      reached (((undeclared h s.path declared).mapError .disk).map fun found => node s source ts (ofChildren s found)) := by
  rcases hb : h.isDirectory s.path with fault | _ | _
  · obtain ⟨hnames, hfound⟩ := undeclaredNames_error hb declared
    rw [hnames, hfound]
    rfl
  · obtain ⟨hnames, hfound⟩ := undeclaredNames_false hb declared
    rw [hnames, hfound]
    rfl
  · obtain ⟨children, hc⟩ := Host.children_of_isDirectory hb
    obtain ⟨hnames, hfound⟩ := undeclaredNames_true hb hc declared
    have hall : ((children.filter fun child => !declared.contains child.1).map (·.1)).mapM
        (fun name => construct h depth (s.path.child name) s .empty) =
          reached ((children.filter fun child => !declared.contains child.1).mapM (entered h s)) := by
      rw [List.mapM_map]
      exact reached_mapM fun child hmem => hchild child.1 child.2 ⟨hb, children, hc, (List.mem_filter.mp hmem).1⟩
    rw [mapM_entered] at hall
    rw [hnames, hfound]
    refine (congrArg (· >>= fun discovered => pure (node s source ts discovered)) hall).trans ?_
    cases checkEntries h s.path (children.filter fun child => !declared.contains child.1) <;> rfl

variable {name : String} {e : Entry}

/-- What an entry gives undeclared is what its node gives that is made of nothing. -/
theorem entered_eq (hd : h.disk.WellFormed) (hs : h.disk.Spelled) (hp : s.path.root ≠ .working)
    (hholds : h.Holds s.path name e) :
    entered h s (name, e) = ((undeclared h (s.path.child name) []).mapError .disk).map fun found =>
      .node (s.moved (s.path.child name)) [] [] (ofChildren (s.moved (s.path.child name)) found) := by
  obtain ⟨l, a, entries, hlook, hlookup, -⟩ := hholds.lookup hd
  obtain ⟨hl, he⟩ := Host.look_eq_ok.mp hlook
  have hhere : h.disk.get? (l ++ [name]) = some e := Entry.get?_directory he hlookup []
  unfold entered checkEntry
  rcases hb : h.isDirectory (s.path.child name) with fault | b
  · rw [(undeclaredNames_error hb []).2]
    rfl
  · obtain ⟨hthere, hentered⟩ := locate_entered hd hs hp hl he hlookup hb
    cases b with
    | false =>
      rw [(undeclaredNames_false hb []).2]
      cases e with
      | directory a' children => cases Host.isDirectory_of_locate (hentered rfl) hhere hb hthere
      | file => rfl
      | link => rfl
    | true =>
      obtain ⟨l', a', children, hl', hunfollowed, hat⟩ := Host.directory_of_isDirectory hb
      obtain rfl : l' = l ++ [name] := Except.ok.inj (hunfollowed.symm.trans hthere)
      obtain rfl : e = .directory a' children := Option.some.inj (hhere.symm.trans hat)
      have hchildren : h.children (s.path.child name) = .ok children :=
        Host.children_eq_ok.mpr ⟨_, a', Host.look_eq_ok.mpr ⟨hl', hat⟩⟩
      have hall : (children.filter fun child => !([] : List String).contains child.1) = children := by simp
      have hasked : (Entry.allDescendants children).forM (fun found => do
          let _ ← h.isDirectory ((s.path.child name).below found.1)) = checkEntries h (s.path.child name) children := rfl
      rw [(undeclaredNames_true hb hchildren []).2, hall, Entry.descendants, ofEntry, ok_bind, hasked]
      cases checkEntries h (s.path.child name) children <;> rfl

/-- A node of nothing is constructed for an entry that is no higher than the depth allowed. -/
theorem construct_entered (hd : h.disk.WellFormed) (hs : h.disk.Spelled) {depth : Nat} : ∀ {s : Standing} {name : String}
    {e : Entry}, s.path.root ≠ .working → h.Holds s.path name e → e.height ≤ depth →
      construct h depth (s.path.child name) s .empty = reached (entered h s (name, e)) := by
  induction depth with
  | zero =>
    intro s name e _ _ hheight
    have hpos := e.height_pos
    omega
  | succ depth ih =>
    intro s name e hp hholds hheight
    have hpath : (s.moved (s.path.child name)).path.root ≠ .working := hp
    rw [entered_eq hd hs hp hholds, Outline.empty, construct, derive_empty]
    refine discovered_eq (s := s.moved (s.path.child name)) (fun n below hbelow => ?_) [] [] []
    obtain ⟨a, children, rfl, hmem⟩ := (Host.holds_child hd hs hp hholds ⟨true, hbelow.1⟩).mp hbelow
    have hbound : below.height ≤ Entry.heightAll children := Entry.height_le_of_mem hmem
    rw [Entry.height] at hheight
    exact ih hpath hbelow (by omega)

theorem ofDeclared_eq_mapM (children : List (String × Outline)) : (ofDeclared h s children).outcome =
    children.mapM fun child => (ofOutline h (s.path.child child.1) s child.2).outcome := by
  induction children with
  | nil =>
    rw [ofDeclared]
    rfl
  | cons child rest ih =>
    rw [ofDeclared, List.mapM_cons, ← ih]
    simp only [Told.outcome_bind, Told.outcome_pure]
    rfl

/-- A construction ends within the depth of the config and the height of the disk together, with the tree or the fault
that building comes to. -/
theorem construct_eq (hd : h.disk.WellFormed) (hs : h.disk.Spelled) : ∀ {depth : Nat} {o : Outline} {path : Path}
    {parent : Standing}, path.root ≠ .working → o.depth + h.disk.height ≤ depth →
      construct h depth path parent o = reached (ofOutline h path parent o).outcome := by
  intro depth
  induction depth with
  | zero =>
    intro o path parent _ hdepth
    have hpos := o.depth_pos
    omega
  | succ depth ih =>
    intro o path parent hp hdepth
    cases o with
    | refused fault =>
      rw [construct, ofOutline]
      rfl
    | node source settings children =>
      rw [construct, ofOutline]
      simp only [Told.outcome_bind, Told.outcome_pure, Told.mapFault, Told.outcome_ofExcept]
      rcases hs' : (derive h path settings parent).outcome with fault | s
      · rfl
      obtain ⟨rfl, -, -⟩ := derive_inv hs'
      rw [ok_bind, reached_ok_bind]
      rw [Outline.depth] at hdepth
      have hdeclared : children.mapM (fun child => construct h depth (s.path.child child.1) s child.2) =
          reached (ofDeclared h s children).outcome := by
        rw [ofDeclared_eq_mapM]
        refine reached_mapM fun child hc => ih hp ?_
        have hchild : child.2.depth ≤ Outline.depthAll children := Outline.depth_le_of_mem hc
        omega
      have hentered : ∀ name e, h.Holds s.path name e →
          construct h depth (s.path.child name) s .empty = reached (entered h s (name, e)) := by
        intro name e hholds
        have hheight := hholds.height_lt hd
        exact construct_entered hd hs hp hholds (by omega)
      rw [hdeclared]
      rcases (ofDeclared h s children).outcome with fault | ts
      · rfl
      · rw [ok_bind, reached_ok_bind, discovered_eq hentered]
        rcases undeclared h s.path (children.map (·.1)) <;> rfl

end

/-! ### How many nodes -/

section
variable {h : Host}

mutual

theorem length_walk_ofEntry (s : Standing) : ∀ e : Entry, (ofEntry s e).walk.length = 1 + e.descendants.length
  | .file _ _ => rfl
  | .link _ _ => rfl
  | .directory a children => by
    rw [ofEntry, walk, walkAll, List.nil_append, List.length_append, length_walkAll_ofChildren s children, Entry.descendants,
      List.length_singleton, Nat.add_comm]

theorem length_walkAll_ofChildren (s : Standing) : ∀ children : List (String × Entry),
    (walkAll (ofChildren s children)).length = (Entry.allDescendants children).length
  | [] => rfl
  | (name, e) :: rest => by
    rw [ofChildren, walkAll, Entry.allDescendants, List.length_append, List.length_append, List.length_cons, List.length_map,
      length_walk_ofEntry _ e, length_walkAll_ofChildren s rest, Nat.add_comm 1]

end

/-- Below one node no more nodes are found than there are entries on the disk. -/
theorem length_found_le {path : Path} {s : Standing} {names : List String} {found : List (String × Entry)}
    (hf : undeclared h path names = .ok found) : (walkAll (ofChildren s found)).length ≤ h.disk.descendants.length := by
  rw [length_walkAll_ofChildren]
  rcases undeclared_inv hf with ⟨-, rfl⟩ | ⟨-, -, l, a, children, hlook, rfl⟩
  · exact Nat.zero_le _
  · have hdirectory := Entry.descendants_get?_le (Host.look_eq_ok.mp hlook).2
    rw [Entry.descendants] at hdirectory
    exact Nat.le_trans (Entry.length_allDescendants_filter_le _ children) hdirectory

mutual

/-- A node that the config declares has no more nodes than itself, those the config declares below it, and for each of
these as many as there are entries on the disk. -/
theorem length_walk_le : ∀ {o : Outline} {path : Path} {parent : Standing} {t : Tree},
    (ofOutline h path parent o).outcome = .ok t → t.walk.length ≤ t.declaredNodes.length * (1 + h.disk.descendants.length)
  | .refused _, _, _, _, ht => by
    obtain ⟨_, _, _, _, _, _, ho, -⟩ := ofOutline_inv ht
    cases ho
  | .node _ _ children, path, parent, t, ht => by
    obtain ⟨_, _, _, s, declared, found, ho, hs, hdeclared, hfound, rfl⟩ := ofOutline_inv ht
    cases ho
    have hbelow := length_walkAll_le hdeclared
    have hhere := length_found_le (s := s) hfound
    rw [walk, declaredNodes, List.length_append, List.length_append, List.length_singleton, List.length_cons, Nat.succ_mul]
    omega

theorem length_walkAll_le : ∀ {children : List (String × Outline)} {s : Standing} {ts : List Tree},
    (ofDeclared h s children).outcome = .ok ts →
      (walkAll ts).length ≤ (allDeclaredNodes ts).length * (1 + h.disk.descendants.length)
  | [], _, _, hts => by
    obtain rfl := ofDeclared_nil_inv hts
    exact Nat.zero_le _
  | (_, _) :: _, _, _, hts => by
    obtain ⟨t, more, ht, hmore, rfl⟩ := ofDeclared_cons_inv hts
    have hfirst := length_walk_le ht
    have hrest := length_walkAll_le hmore
    rw [walkAll, allDeclaredNodes, List.length_append, List.length_append, Nat.add_mul]
    omega

end

/-- The construction of a tree ends on every disk, links and all, within the depth of the config and the height of the
disk together; and a tree of a config of so many nodes has no more nodes than these and, for each of them, as many as
there are entries on the disk. -/
theorem construction_ends {h : Host} {config : Value} {n : Nat} (hd : h.disk.WellFormed) (hs : h.disk.Spelled)
    (hcount : (Outline.ofValue config).count Outline.rootLocation = .ok n) (root : Path) :
    (∀ depth, (Outline.ofValue config).depth + h.disk.height ≤ depth →
      (construct h depth (h.absolute root) (.outermost (h.absolute root)) (Outline.ofValue config)).run =
        some (build h config root).outcome) ∧
    ∀ t, (build h config root).outcome = .ok t → t.walk.length ≤ n + n * h.disk.descendants.length := by
  refine ⟨fun depth hdepth => ?_, fun t ht => ?_⟩
  · rw [construct_eq hd hs (h.absolute_root root) hdepth]
    rfl
  · have hdeclared := Except.ok.inj (hcount.symm.trans (count_of_built ht Outline.rootLocation))
    have hlength := length_walk_le ht
    rw [hdeclared]
    rw [Nat.mul_add, Nat.mul_one] at hlength
    exact hlength

end

/-! ### A link back up -/

namespace Circle

/-- A course with a link to what is above it, and a hall with a link to itself. -/
def host : Host :=
  Trial.host [("back", .link 0 ".."), ("hall", .directory { mode := 0o755, gid := 0 }
    [("loop", .link 0 "../hall"), ("map", Trial.file 0o644)])] []

/-- A config that goes through the link twice. -/
def config : Value :=
  .map [(.text "mode", .text "0644"), (.text "back", .map [(.text "course", .map [(.text "back", .map [(.text "course", .null)])])])]

end Circle

theorem construction_ends_circle : ∃ t, (build Circle.host Circle.config Trial.root).outcome = .ok t ∧
    (construct Circle.host 9 Trial.root (.outermost Trial.root) (Outline.ofValue Circle.config)).run = some (.ok t) ∧
    t.walk.length ≤ 5 + 5 * 5 ∧ t.walk.length = 15 := by
  obtain ⟨t, ht, hlength⟩ : ∃ t, (build Circle.host Circle.config Trial.root).outcome = .ok t ∧ t.walk.length = 15 :=
    exists_of_built (by decide +kernel)
  have hcount : (Outline.ofValue Circle.config).count Outline.rootLocation = .ok 5 := toOption_eq_some.mp (by decide +kernel)
  obtain ⟨hends, hfew⟩ := construction_ends (h := Circle.host) (by decide) (by decide) hcount Trial.root
  refine ⟨t, ht, ?_, hfew t ht, hlength⟩
  rw [← ht]
  exact hends 9 (by decide +kernel)

end Tree
end Curfew
