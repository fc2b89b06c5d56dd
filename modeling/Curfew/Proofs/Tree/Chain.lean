import Curfew.Proofs.Config.Names
import Curfew.Proofs.Tree.Build

/-! What a node inherits. What holds at a node comes from the settings on the way from the root down to it, and the
policies of a node are those of all these settings. -/

namespace Curfew

/-- The settings on the way from a node of a config down names; an entry that is not declared has none. -/
def Outline.chain : List String → Outline → List Settings
  | _, .refused _ => []
  | [], .node _ settings _ => [settings]
  | name :: names, .node _ settings children =>
    settings ::
      match children.lookup name with
      | some child => chain names child
      | none => (name :: names).map fun _ => .empty

/-- Names behind a path that are not declared, each path with no settings. -/
def Outline.bare (path : Path) : List String → List (Path × Settings)
  | [] => []
  | name :: names => (path.child name, .empty) :: bare (path.child name) names

/-- The settings on the way down names, each with the path it stands at; the first stands at the given one. -/
def Outline.placed (path : Path) : List String → Outline → List (Path × Settings)
  | _, .refused _ => []
  | [], .node _ settings _ => [(path, settings)]
  | name :: names, .node _ settings children =>
    (path, settings) ::
      match children.lookup name with
      | some child => placed (path.child name) names child
      | none => bare path (name :: names)

theorem Outline.map_snd_bare (names : List String) : ∀ path : Path, (bare path names).map (·.2) = names.map fun _ => .empty := by
  induction names with
  | nil => exact fun path => rfl
  | cons name names ih => exact fun path => congrArg (_ :: ·) (ih (path.child name))

theorem Outline.map_snd_placed : ∀ (names : List String) (path : Path) (o : Outline), (o.placed path names).map (·.2) = o.chain names
  | names, path, .refused fault => by
    rw [placed, chain]
    rfl
  | [], path, .node source settings children => rfl
  | name :: names, path, .node source settings children => by
    rw [placed, chain, List.map_cons]
    cases children.lookup name with
    | some child => exact congrArg (settings :: ·) (map_snd_placed names (path.child name) child)
    | none => exact congrArg (settings :: ·) (map_snd_bare (name :: names) path)

/-- The defaults of a chain of settings, the nearest first. -/
def Settings.defaults (chain : List Settings) : List Policy :=
  chain.reverse.filterMap fun settings => settings.directives.mode.map Policy.default

/-- The dated policies of a chain of settings, those of the outermost first. -/
def Settings.datedPolicies (chain : List Settings) : List Policy :=
  chain.flatMap fun settings => settings.dated.map fun dated => Policy.dated dated.1 dated.2

namespace Tree

/-- The root of a built tree is the path that was asked for, from the top. -/
theorem path_build {h : Host} {config : Value} {root : Path} {t : Tree} (hb : (build h config root).outcome = .ok t) :
    t.path = h.absolute root := by
  obtain ⟨_, _, _, s, _, _, -, hs, -, -, rfl⟩ := ofOutline_inv hb
  exact (derive_inv hs).1

/-! ### From parents to children -/

/-- A property of nodes and the settings on the way to them, with their paths, that goes down from a parent to its
children. -/
structure Inherited (h : Host) (P : List (Path × Settings) → Standing → Prop) : Prop where
  derive : ∀ {above path settings parent s}, P above parent → (derive h path settings parent).outcome = .ok s →
    P (above ++ [(path, settings)]) s
  moved : ∀ {above s}, P above s → ∀ path, P (above ++ [(path, .empty)]) (s.moved path)

namespace Inherited
variable {h : Host} {P : List (Path × Settings) → Standing → Prop}

mutual

theorem walk_ofEntry (hP : Inherited h P) : ∀ {e : Entry} {s : Standing} {above : List (Path × Settings)}, P above s →
    ∀ s' ∈ (ofEntry s e).walk, ∃ names, s'.path = s.path.below names ∧ P (above ++ Outline.bare s.path names) s'
  | e, s, above, hs, s', hs' => by
    have leaf : s' = s → ∃ names, s'.path = s.path.below names ∧ P (above ++ Outline.bare s.path names) s' := by
      rintro rfl
      exact ⟨[], by simp [Path.below], by simpa [Outline.bare] using hs⟩
    cases e with
    | file a content =>
      refine leaf ?_
      simpa [ofEntry, walk, walkAll] using hs'
    | link gid target =>
      refine leaf ?_
      simpa [ofEntry, walk, walkAll] using hs'
    | directory a children =>
      rw [ofEntry, walk, walkAll, List.nil_append, List.mem_append, List.mem_singleton] at hs'
      rcases hs' with hs' | hs'
      · obtain ⟨child, -, names, hpath, hchain⟩ := walkAll_ofChildren hP hs s' hs'
        exact ⟨child.1 :: names, hpath, hchain⟩
      · exact leaf hs'

theorem walkAll_ofChildren (hP : Inherited h P) : ∀ {children : List (String × Entry)} {s : Standing} {above : List (Path × Settings)},
    P above s → ∀ s' ∈ walkAll (ofChildren s children), ∃ child ∈ children, ∃ names,
      s'.path = s.path.below (child.1 :: names) ∧ P (above ++ Outline.bare s.path (child.1 :: names)) s'
  | [], _, _, _, s', hs' => by simp [ofChildren, walkAll] at hs'
  | (name, entry) :: rest, s, above, hs, s', hs' => by
    rw [ofChildren, walkAll, List.mem_append] at hs'
    rcases hs' with hs' | hs'
    · obtain ⟨names, hpath, hchain⟩ := walk_ofEntry hP (hP.moved hs (s.path.child name)) s' hs'
      refine ⟨(name, entry), List.mem_cons_self, names, ?_, by simpa [Outline.bare, Standing.moved] using hchain⟩
      rw [hpath]
      simp [Standing.moved, Path.child, Path.below]
    · obtain ⟨child, hc, hrest⟩ := walkAll_ofChildren hP hs s' hs'
      exact ⟨child, List.mem_cons_of_mem _ hc, hrest⟩

end

mutual

theorem walk_ofOutline (hP : Inherited h P) : ∀ {o : Outline} {path : Path} {parent : Standing} {t : Tree}
    {above : List (Path × Settings)}, o.Named → P above parent → (ofOutline h path parent o).outcome = .ok t →
      ∀ s ∈ t.walk, ∃ names, s.path = path.below names ∧ P (above ++ o.placed path names) s
  | .refused _, _, _, _, _, _, _, ht => by
    obtain ⟨_, _, _, _, _, _, ho, -⟩ := ofOutline_inv ht
    cases ho
  | .node source settings children, path, parent, t, above, hn, hparent, ht => by
    obtain ⟨_, _, _, s, declared, found, ho, hs, hdeclared, hfound, rfl⟩ := ofOutline_inv ht
    cases ho
    obtain ⟨rfl, -, -⟩ := derive_inv hs
    have hPs := hP.derive hparent hs
    intro s' hs'
    rw [walk, List.mem_append, List.mem_append, List.mem_singleton] at hs'
    rcases hs' with (hs' | hs') | rfl
    · obtain ⟨child, hc, names, hpath, hchain⟩ := walkAll_ofDeclared hP hn.2 hPs hdeclared s' hs'
      refine ⟨child.1 :: names, hpath, ?_⟩
      rw [Outline.placed, Entry.lookup_of_mem hn.1 hc]
      simpa using hchain
    · obtain ⟨child, hc, names, hpath, hchain⟩ := walkAll_ofChildren hP hPs s' hs'
      refine ⟨child.1 :: names, hpath, ?_⟩
      -- What is found is not declared, so nothing is said of it or of what is below.
      have hfree : children.lookup child.1 = none := by
        rcases undeclared_inv hfound with ⟨-, rfl⟩ | ⟨-, -, l, a, entries, -, rfl⟩
        · cases hc
        · have hnot := (List.mem_filter.mp hc).2
          refine List.lookup_eq_none_iff.mpr fun declared hd => bne_iff_ne.mpr fun heq => ?_
          simp only [List.contains_eq_mem, List.mem_map, Bool.not_eq_true', decide_eq_false_iff_not] at hnot
          exact hnot ⟨declared, hd, heq.symm⟩
      rw [Outline.placed, hfree]
      simpa using hchain
    · exact ⟨[], by simp [Path.below], by simpa [Outline.placed] using hPs⟩

theorem walkAll_ofDeclared (hP : Inherited h P) : ∀ {children : List (String × Outline)} {s : Standing} {ts : List Tree}
    {above : List (Path × Settings)}, Outline.AllNamed children → P above s → (ofDeclared h s children).outcome = .ok ts →
      ∀ s' ∈ walkAll ts, ∃ child ∈ children, ∃ names, s'.path = s.path.below (child.1 :: names) ∧
        P (above ++ child.2.placed (s.path.child child.1) names) s'
  | [], _, _, _, _, _, hts => by
    obtain rfl := ofDeclared_nil_inv hts
    simp [walkAll]
  | (name, child) :: rest, s, ts, above, hn, hs, hts => by
    obtain ⟨t, more, ht, hmore, rfl⟩ := ofDeclared_cons_inv hts
    intro s' hs'
    rw [walkAll, List.mem_append] at hs'
    rcases hs' with hs' | hs'
    · obtain ⟨names, hpath, hchain⟩ := walk_ofOutline hP hn.2.1 hs ht s' hs'
      refine ⟨(name, child), List.mem_cons_self, names, ?_, hchain⟩
      rw [hpath]
      simp [Path.child, Path.below]
    · obtain ⟨c, hc, hrest⟩ := walkAll_ofDeclared hP hn.2.2 hs hmore s' hs'
      exact ⟨c, List.mem_cons_of_mem _ hc, hrest⟩

end

/-- What is inherited holds at each node of a built tree with the settings on the way to it. -/
theorem walk_build {config : Value} {root : Path} {t : Tree} (hP : Inherited h P) (htop : P [] (.outermost (h.absolute root)))
    (hb : (build h config root).outcome = .ok t) :
    ∀ s ∈ t.walk, ∃ names, s.path = t.path.below names ∧ P ((Outline.ofValue config).placed t.path names) s := by
  rw [path_build hb]
  exact walk_ofOutline hP (Outline.named_ofValue config) htop hb

end Inherited

/-! ### Policies -/

theorem inherited_policies (h : Host) : Inherited h fun chain s =>
    s.policies = Settings.defaults (chain.map (·.2)) ++ Settings.datedPolicies (chain.map (·.2)) where
  derive := by
    intro above path settings parent s hparent hs
    obtain ⟨-, -, hpolicies⟩ := derive_inv hs
    rw [hpolicies, Standing.derivePolicies, hparent]
    cases hm : settings.directives.mode <;> simp [Settings.defaults, Settings.datedPolicies, hm]
  moved := by
    intro above s hs path
    rw [show (s.moved path).policies = s.policies from rfl, hs]
    simp [Settings.defaults, Settings.datedPolicies, Settings.empty, Directives.empty]

/-- The policies of a node are the defaults on the way to it, the nearest first, and then the dated policies on the
way, the outermost first. -/
theorem policies_of_walk {h : Host} {config : Value} {root : Path} {t : Tree} {s : Standing}
    (hb : (build h config root).outcome = .ok t) (hs : s ∈ t.walk) :
    ∃ names, s.path = t.path.below names ∧
      s.policies = Settings.defaults ((Outline.ofValue config).chain names) ++
        Settings.datedPolicies ((Outline.ofValue config).chain names) := by
  obtain ⟨names, hpath, hpolicies⟩ := (inherited_policies h).walk_build rfl hb s hs
  rw [Outline.map_snd_placed] at hpolicies
  exact ⟨names, hpath, hpolicies⟩

end Tree

end Curfew
