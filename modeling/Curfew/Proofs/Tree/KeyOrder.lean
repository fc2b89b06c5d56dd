import Curfew.Proofs.Config.Reordered
import Curfew.Proofs.Tree.Matching

/-! The order of keys. Where no two keys of a mapping give one name or denote one instant, a config builds the same
nodes in every order of its keys, but for the order of their policies, and a run does not depend on it. -/

namespace Curfew

namespace Tree
variable {h : Host} {path : Path} {s s' parent parent' : Standing}

/-! ### Standings -/

theorem sameFirsts_dated {settings settings' : Settings} (hsame : Value.SameSettings settings settings') :
    Policy.SameFirsts (settings.dated.map fun dated => .dated dated.1 dated.2)
      (settings'.dated.map fun dated => .dated dated.1 dated.2) := by
  have instants : ∀ ds : List (When × ModeSpec), (ds.map fun dated => Policy.dated dated.1 dated.2).map Policy.instant =
      ds.map fun dated => dated.1.stampOf.instant := fun ds => by
    rw [List.map_map]
    rfl
  refine Policy.sameFirsts_of_mem_iff ?_ ?_ fun p => ?_
  · rw [instants]
    exact hsame.nodup
  · rw [instants]
    exact hsame.nodup'
  · simp only [List.mem_map, hsame.dated]

theorem derive_alike {settings settings' : Settings} (hparent : parent.Alike parent')
    (hsame : Value.SameSettings settings settings') (hs : (derive h path settings parent).outcome = .ok s) :
    ∃ s', (derive h path settings' parent').outcome = .ok s' ∧ s.Alike s' := by
  simp only [derive, Told.outcome_bind, bind_eq_ok, Told.outcome_pure, Except.ok.injEq] at hs
  obtain ⟨excludes, hexcludes, includes, hincludes, rfl⟩ := hs
  rw [hsame.directives, hparent.excludes] at hexcludes
  rw [hsame.directives, hparent.includes] at hincludes
  have hs' : (derive h path settings' parent').outcome = .ok
      { path, group := settings'.directives.group.getD parent'.group, excludes, includes
        policies := Standing.derivePolicies settings' parent'.policies } := by
    simp only [derive, Told.outcome_bind, hexcludes, hincludes, ok_bind, Told.outcome_pure]
  have hpolicies : Policy.SameFirsts (Standing.derivePolicies settings parent.policies)
      (Standing.derivePolicies settings' parent'.policies) := by
    unfold Standing.derivePolicies
    rw [hsame.directives]
    exact ((Policy.SameFirsts.refl _).append hparent.policies).append (sameFirsts_dated hsame)
  refine ⟨_, hs', rfl, ?_, rfl, rfl, hpolicies⟩
  rw [hsame.directives, hparent.group]

/-! ### Nodes that are found -/

theorem Matches.append {R : Standing → Standing → Prop} {ss ss' us us' : List Standing} (h : Matches R ss ss')
    (h' : Matches R us us') : Matches R (ss ++ us) (ss' ++ us') := by
  refine ⟨fun s hs => ?_, fun s' hs' => ?_⟩
  · rcases List.mem_append.mp hs with hs | hs
    · obtain ⟨s', hs', hR⟩ := h.forth s hs
      exact ⟨s', List.mem_append_left _ hs', hR⟩
    · obtain ⟨s', hs', hR⟩ := h'.forth s hs
      exact ⟨s', List.mem_append_right _ hs', hR⟩
  · rcases List.mem_append.mp hs' with hs' | hs'
    · obtain ⟨s, hs, hR⟩ := h.back s' hs'
      exact ⟨s, List.mem_append_left _ hs, hR⟩
    · obtain ⟨s, hs, hR⟩ := h'.back s' hs'
      exact ⟨s, List.mem_append_right _ hs, hR⟩

theorem Matches.single {R : Standing → Standing → Prop} (h : R s s') : Matches R [s] [s'] :=
  ⟨fun _ hu => ⟨s', List.mem_singleton_self _, List.mem_singleton.mp hu ▸ h⟩,
    fun _ hu => ⟨s, List.mem_singleton_self _, List.mem_singleton.mp hu ▸ h⟩⟩

mutual

theorem matches_ofEntry : ∀ (e : Entry) {s s' : Standing}, s.Alike s' →
    Matches Standing.Alike (ofEntry s e).walk (ofEntry s' e).walk
  | .file _ _, _, _, ha => by
    simpa [ofEntry, walk, walkAll] using Matches.single ha
  | .directory _ children, _, _, ha => by
    rw [ofEntry, ofEntry, walk, walk]
    exact (matches_ofChildren children ha).append (.single ha)
  | .link _ _, _, _, ha => by
    simpa [ofEntry, walk, walkAll] using Matches.single ha

theorem matches_ofChildren : ∀ (children : List (String × Entry)) {s s' : Standing}, s.Alike s' →
    Matches Standing.Alike (walkAll (ofChildren s children)) (walkAll (ofChildren s' children))
  | [], _, _, _ => by
    rw [ofChildren, ofChildren]
    exact .refl .refl _
  | (name, entry) :: rest, s, s', ha => by
    rw [ofChildren, ofChildren, walkAll, walkAll, ← ha.path]
    exact (matches_ofEntry entry (ha.moved _)).append (matches_ofChildren rest ha)

end

theorem sameUnder_none (ha : s.Alike s') {name : String} (hstand : CanStand h s name none) :
    SameUnder Standing.Alike h s s' name none none := by
  refine ⟨?_, ?_, ?_⟩
  · intro e
    rw [← ha.path]
    exact hstand e
  · rintro _ ⟨e, hholds, rfl⟩
    rw [ha.path] at hholds ⊢
    exact ⟨_, ⟨e, hholds, rfl⟩, matches_ofEntry e (ha.moved _)⟩
  · rintro _ ⟨e, hholds, rfl⟩
    rw [← ha.path] at hholds ⊢
    exact ⟨_, ⟨e, hholds, rfl⟩, matches_ofEntry e (ha.moved _)⟩

/-! ### Built trees -/

/-- A value whose keys are in another order builds nodes that match, below parents that are alike. -/
theorem exists_ofValue_of_reordered {v w : Value} {path : Path} {parent parent' : Standing} {t : Tree}
    (hr : v.Reordered w) (hapart : v.TellsApart) (htimes : v.TellsTimesApart) (hparent : parent.Alike parent')
    (ht : (ofValue h path parent v).outcome = .ok t) :
    ∃ u, (ofValue h path parent' w).outcome = .ok u ∧ Matches Standing.Alike t.walk u.walk := by
  obtain ⟨-, settings, hsaid, hderived, -, hstand, -⟩ := ofValue_inv ht
  obtain ⟨settings', hsaid', hsame⟩ := Value.says_reordered hr htimes hsaid
  obtain ⟨s', hderived', htop⟩ := derive_alike hparent hsame hderived
  refine exists_ofValue_matches ht hsaid' hderived' htop fun n => ?_
  have hrel := Value.child?_reordered hr hapart n
  have hn := hstand n
  cases hx : v.child? n with
  | none =>
    rw [hx] at hrel hn
    cases hy : w.child? n with
    | none => exact sameUnder_none htop hn
    | some y =>
      rw [hy] at hrel
      cases hrel
  | some x =>
    rw [hx] at hrel hn
    cases hy : w.child? n with
    | none =>
      rw [hy] at hrel
      cases hrel
    | some y =>
      rw [hy] at hrel
      obtain ⟨hxy⟩ := hrel
      obtain ⟨b, hb⟩ := hn
      have hbelow : x.TellsApart := fun names entries hl => hapart (n :: names) entries (Value.leads_of_child? hx hl)
      have hbelow' : x.TellsTimesApart := fun names entries hl => htimes (n :: names) entries (Value.leads_of_child? hx hl)
      obtain ⟨b', hb', hm⟩ := exists_ofValue_of_reordered hxy hbelow hbelow' htop hb
      rw [htop.path] at hb'
      exact sameUnder_of_built hb hb' hm
  termination_by sizeOf v
  decreasing_by exact Value.sizeOf_child? hx

/-- The order of the keys of a config makes no difference: in another order it builds a tree as well, and where no link
stands above a node, runs over the two have the same effect. -/
theorem sameEffect_of_reordered {h₀ : Host} {config config' : Value} {root : Path} {t : Tree} (hd : h₀.disk.WellFormed)
    (hb : (build h₀ config root).outcome = .ok t) (hr : config.Reordered config') (hapart : config.TellsApart)
    (htimes : config.TellsTimesApart) :
    ∃ t', (build h₀ config' root).outcome = .ok t' ∧ ∀ h clock isDryRun, (∀ s ∈ t.managed, h.Unlinked s.path) →
      (t.apply h clock isDryRun).SameEffect (t'.apply h clock isDryRun) := by
  obtain ⟨t', hb', hm⟩ := exists_ofValue_of_reordered hr hapart htimes (.refl _) hb
  exact ⟨t', hb', fun h clock isDryRun hu => sameEffect_of_built hd hb hb' hm hu clock isDryRun⟩

/-! ### A config turned around -/

namespace Turned

/-- A course with a file in a directory. -/
def host : Host := Trial.host [("hall", .directory { mode := 0o755, gid := 0 } [("map", Trial.file 0o644)])] []

/-- The first day of 2031. -/
def date : When := .day ⟨741442, by decide⟩

/-- What is said of the directory, the group first. -/
def hall : Value := .map [(.text "group", .text "staff"), (.time date, .text "0500")]

/-- A config that says what is said of all before it comes to the directory. -/
def config : Value :=
  .map [(.text "mode", .map [(.text "dir", .text "0700"), (.text "file", .text "0600")]), (.text "hall", hall)]

/-- The same with the keys of every mapping turned around. -/
def turned : Value :=
  .map [(.text "hall", .map [(.time date, .text "0500"), (.text "group", .text "staff")]),
    (.text "mode", .map [(.text "file", .text "0600"), (.text "dir", .text "0700")])]

theorem reordered : config.Reordered turned :=
  Value.reordered_swap (by simp) (Value.reordered_swap (by simp) (.same _) (.same _))
    (Value.reordered_swap (by simp) (.same _) (.same _))

theorem tellsApart : ∀ names entries, Value.Leads names config (.map entries) →
    (entries.filterMap fun entry => Fragment.childName? entry.1).Nodup ∧
      (entries.filterMap fun entry => Fragment.instant? entry.1).Nodup := by
  have text : ∀ {s : String} {names entries}, ¬Value.Leads names (.text s) (.map entries) := nofun
  refine Value.forall_leads_map (by decide) (List.forall_mem_cons.mpr ⟨?_, List.forall_mem_singleton.mpr ?_⟩)
  · exact Value.forall_leads_map (by decide) (by simp [text])
  · exact Value.forall_leads_map (by decide) (by simp [text])

end Turned

theorem sameEffect_of_reordered_course : ∃ t t', (build Turned.host Turned.config Trial.root).outcome = .ok t ∧
    (build Turned.host Turned.turned Trial.root).outcome = .ok t' ∧
    (t.apply Turned.host Trial.clock false).SameEffect (t'.apply Turned.host Trial.clock false) := by
  obtain ⟨t, ht, hu⟩ : ∃ t, (build Turned.host Turned.config Trial.root).outcome = .ok t ∧
      ∀ s ∈ t.managed, Turned.host.Unlinked s.path :=
    exists_of_built (by decide +kernel)
  obtain ⟨t', ht', hsame⟩ := sameEffect_of_reordered (by decide) ht Turned.reordered
    (fun names entries hl => (Turned.tellsApart names entries hl).1)
    fun names entries hl => (Turned.tellsApart names entries hl).2
  exact ⟨t, t', ht, ht', hsame _ _ false hu⟩

end Tree

end Curfew
