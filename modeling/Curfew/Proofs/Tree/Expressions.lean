import Curfew.Proofs.Tree.Chain

/-! The mode expressions of a config. The mode of a node comes from a policy of the node, and each policy of a node of a
built tree has its two expressions from the config. -/

namespace Curfew

/-- The specs of a node, its default first. -/
def Settings.specs (settings : Settings) : List ModeSpec :=
  settings.directives.mode.toList ++ settings.dated.map (·.2)

namespace Outline

mutual

/-- What the nodes of an outline say about themselves, each node before those below it. -/
def settings : Outline → List Settings
  | .refused _ => []
  | .node _ s children => s :: settingsAll children

def settingsAll : List (String × Outline) → List Settings
  | [] => []
  | (_, child) :: rest => settings child ++ settingsAll rest

end

theorem settings_subset_settingsAll {children : List (String × Outline)} {name : String} {child : Outline}
    (hc : children.lookup name = some child) : child.settings ⊆ settingsAll children := by
  induction children with
  | nil => cases hc
  | cons first rest ih =>
    rw [Entry.lookup_cons_if] at hc
    rw [settingsAll]
    split at hc
    · cases hc
      exact List.subset_append_left _ _
    · exact List.Subset.trans (ih hc) (List.subset_append_right _ _)

/-- The settings on the way down names are settings of the outline, but for entries that are not declared. -/
theorem mem_chain : ∀ (names : List String) (o : Outline), ∀ s ∈ o.chain names, s ∈ o.settings ∨ s = .empty
  | names, .refused fault, s, hs => by
    rw [chain] at hs
    cases hs
  | [], .node source top children, s, hs => by
    rw [chain, List.mem_singleton] at hs
    rw [settings, hs]
    exact Or.inl List.mem_cons_self
  | name :: names, .node source top children, s, hs => by
    rw [chain, List.mem_cons] at hs
    rw [settings]
    rcases hs with rfl | hs
    · exact Or.inl List.mem_cons_self
    · cases hc : children.lookup name with
      | some child =>
        simp only [hc] at hs
        refine (mem_chain names child s hs).imp (fun hmem => ?_) id
        exact List.mem_cons_of_mem _ (settings_subset_settingsAll hc hmem)
      | none =>
        simp only [hc] at hs
        obtain ⟨_, -, rfl⟩ := List.mem_map.mp hs
        exact Or.inr rfl

end Outline

/-- The mode expressions of a config: for directories and for files, the default ones and the dated ones, of all its
nodes. -/
def Value.expressions (config : Value) : List String :=
  ((Outline.ofValue config).settings.flatMap Settings.specs).flatMap fun spec => [spec.dir, spec.file]

theorem Value.mem_expressions {config : Value} {settings : Settings} {spec : ModeSpec}
    (hs : settings ∈ (Outline.ofValue config).settings) (hspec : spec ∈ settings.specs) (timestamp : Stamp) (isDirectory : Bool) :
    (Policy.ofSpec timestamp spec).modeFor isDirectory ∈ config.expressions := by
  refine List.mem_flatMap.mpr ⟨spec, List.mem_flatMap.mpr ⟨settings, hs, hspec⟩, ?_⟩
  cases isDirectory with
  | true => exact List.mem_cons_self
  | false => exact List.mem_cons_of_mem _ List.mem_cons_self

/-! ### Policies of nodes -/

theorem Policy.foldl_choice_mem {choose : Policy → Policy → Policy} (hchoose : ∀ p q, choose p q = p ∨ choose p q = q)
    (ps : List Policy) : ∀ best : Policy, ps.foldl choose best ∈ best :: ps := by
  induction ps with
  | nil => exact fun best => List.mem_singleton_self best
  | cons q ps ih =>
    intro best
    rw [List.foldl_cons]
    rcases List.mem_cons.mp (ih (choose best q)) with heq | hmem
    · rw [heq]
      rcases hchoose best q with hbest | hq
      · rw [hbest]
        exact List.mem_cons_self
      · rw [hq]
        exact List.mem_cons_of_mem _ List.mem_cons_self
    · exact List.mem_cons_of_mem _ (List.mem_cons_of_mem _ hmem)

theorem Policy.mem_of_earliest {ps : List Policy} {p : Policy} (h : earliest ps = some p) : p ∈ ps := by
  cases ps with
  | nil => cases h
  | cons first ps =>
    obtain rfl := Option.some.inj h
    exact foldl_choice_mem (fun _ _ => by split <;> simp) ps first

theorem Policy.mem_of_latest {ps : List Policy} {p : Policy} (h : latest ps = some p) : p ∈ ps := by
  cases ps with
  | nil => cases h
  | cons first ps =>
    obtain rfl := Option.some.inj h
    exact foldl_choice_mem (fun _ _ => by split <;> simp) ps first

/-- The policy that governs a node is its earliest, or its latest once that has had its time. -/
theorem Standing.resolve_inv {s : Standing} {clock : Clock} {p : Policy} (hr : s.resolve clock = .ok (some p)) :
    Policy.earliest s.policies = some p ∨ Policy.latest s.policies = some p ∧ p.isEligible? clock = some true := by
  unfold resolve at hr
  split at hr
  · cases hr
  · rename_i latest hlatest
    split at hr
    · exact Or.inl (Except.ok.inj hr)
    · split at hr
      · cases hr
      · rename_i heligible
        cases hr
        exact Or.inr ⟨hlatest, heligible⟩
      · exact Or.inl (Except.ok.inj hr)

theorem Standing.mem_of_resolve {s : Standing} {clock : Clock} {p : Policy} (hr : s.resolve clock = .ok (some p)) :
    p ∈ s.policies := by
  rcases resolve_inv hr with hearliest | ⟨hlatest, -⟩
  · exact Policy.mem_of_earliest hearliest
  · exact Policy.mem_of_latest hlatest

namespace Tree

theorem modeFor_mem_expressions {h : Host} {config : Value} {root : Path} {t : Tree} {s : Standing} {p : Policy}
    (hb : (build h config root).outcome = .ok t) (hs : s ∈ t.walk) (hp : p ∈ s.policies) (isDirectory : Bool) :
    p.modeFor isDirectory ∈ config.expressions := by
  obtain ⟨names, -, hpolicies⟩ := policies_of_walk hb hs
  have hempty : Settings.specs .empty = [] := rfl
  have declared : ∀ settings ∈ (Outline.ofValue config).chain names, ∀ spec ∈ settings.specs, ∀ timestamp,
      (Policy.ofSpec timestamp spec).modeFor isDirectory ∈ config.expressions := by
    intro settings hsettings spec hspec timestamp
    rcases Outline.mem_chain names _ settings hsettings with hmem | rfl
    · exact Value.mem_expressions hmem hspec timestamp isDirectory
    · rw [hempty] at hspec
      cases hspec
  rw [hpolicies, List.mem_append] at hp
  rcases hp with hp | hp
  · obtain ⟨settings, hsettings, hp⟩ := List.mem_filterMap.mp hp
    obtain ⟨spec, hspec, rfl⟩ := Option.map_eq_some_iff.mp hp
    refine declared settings (List.mem_reverse.mp hsettings) spec ?_ Policy.epoch
    exact List.mem_append_left _ (Option.mem_toList.mpr hspec)
  · obtain ⟨settings, hsettings, hp⟩ := List.mem_flatMap.mp hp
    obtain ⟨dated, hdated, rfl⟩ := List.mem_map.mp hp
    refine declared settings hsettings dated.2 ?_ dated.1.stampOf
    exact List.mem_append_right _ (List.mem_map_of_mem hdated)

end Tree

end Curfew
