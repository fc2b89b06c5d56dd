import Curfew.Proofs.Tree.Branches
import Curfew.Proofs.Tree.Deadline
import Curfew.Proofs.Tree.DryRun
import Mathlib.Data.List.Nodup

/-! Trees whose nodes match. A run depends on the order of the nodes and of their policies in nothing but the order of
the changes it reports, as long as policies of one instant keep their first. -/

namespace Curfew

/-! ### Policies -/

namespace Policy

/-- The first policy of each instant is the same in both lists. -/
def SameFirsts (ps qs : List Policy) : Prop := ∀ i : Int, ps.find? (·.instant = i) = qs.find? (·.instant = i)

namespace SameFirsts
variable {ps qs ps' qs' : List Policy}

theorem refl (ps : List Policy) : SameFirsts ps ps := fun _ => rfl

theorem symm (h : SameFirsts ps qs) : SameFirsts qs ps := fun i => (h i).symm

theorem append (h : SameFirsts ps qs) (h' : SameFirsts ps' qs') : SameFirsts (ps ++ ps') (qs ++ qs') := fun i => by
  rw [List.find?_append, List.find?_append, h i, h' i]

end SameFirsts

/-- Policies of distinct instants may stand in any order. -/
theorem sameFirsts_of_mem_iff {ps qs : List Policy} (hps : (ps.map instant).Nodup) (hqs : (qs.map instant).Nodup)
    (hmem : ∀ p, p ∈ ps ↔ p ∈ qs) : SameFirsts ps qs := by
  have found : ∀ {ps : List Policy}, (ps.map instant).Nodup → ∀ i p,
      ps.find? (·.instant = i) = some p ↔ p ∈ ps ∧ p.instant = i := by
    intro ps hps i p
    constructor
    · exact fun hp => ⟨List.mem_of_find?_eq_some hp, by simpa using List.find?_some hp⟩
    · rintro ⟨hp, rfl⟩
      cases hq : ps.find? (·.instant = p.instant) with
      | none => simpa using List.find?_eq_none.mp hq p hp
      | some q =>
        have hsame : q.instant = p.instant := by simpa using List.find?_some hq
        rw [List.inj_on_of_nodup_map hps (List.mem_of_find?_eq_some hq) hp hsame]
  intro i
  refine Option.ext fun p => ?_
  rw [found hps, found hqs, hmem]

/-- Going on along policies ends at the first of those with the smallest key. -/
theorem foldl_least (key : Policy → Int) (ps : List Policy) : ∀ best p : Policy,
    ps.foldl (fun best q => if key q < key best then q else best) best = p →
      (∀ q ∈ best :: ps, key p ≤ key q) ∧ (best :: ps).find? (key · = key p) = some p := by
  induction ps with
  | nil =>
    rintro best p rfl
    simp
  | cons q ps ih =>
    intro best p hp
    rw [List.foldl_cons] at hp
    by_cases hq : key q < key best
    · rw [if_pos hq] at hp
      obtain ⟨hleast, hfind⟩ := ih q p hp
      have hlt : key p < key best := Int.lt_of_le_of_lt (hleast q List.mem_cons_self) hq
      refine ⟨List.forall_mem_cons.mpr ⟨Int.le_of_lt hlt, hleast⟩, ?_⟩
      rw [List.find?_cons_of_neg (by simpa using Int.ne_of_gt hlt), hfind]
    · rw [if_neg hq] at hp
      obtain ⟨hleast, hfind⟩ := ih best p hp
      obtain ⟨hbest, hrest⟩ := List.forall_mem_cons.mp hleast
      have hle : key p ≤ key q := Int.le_trans hbest (Int.not_lt.mp hq)
      refine ⟨List.forall_mem_cons.mpr ⟨hbest, List.forall_mem_cons.mpr ⟨hle, hrest⟩⟩, ?_⟩
      by_cases hsame : key best = key p
      · rw [List.find?_cons_of_pos (by simpa using hsame)] at hfind ⊢
        exact hfind
      · -- The next policy comes after the best one so far, so it is none of the first either.
        have hnext : key q ≠ key p := by omega
        rw [List.find?_cons_of_neg (by simpa using hsame)] at hfind ⊢
        rw [List.find?_cons_of_neg (by simpa using hnext), hfind]

theorem SameFirsts.foldl {p q : Policy} {ps qs : List Policy} (h : SameFirsts (p :: ps) (q :: qs)) (key : Policy → Int)
    (hkey : ∀ p q, key p = key q ↔ p.instant = q.instant) :
    ps.foldl (fun best q => if key q < key best then q else best) p =
      qs.foldl (fun best q => if key q < key best then q else best) q := by
  obtain ⟨hleast, hfind⟩ := foldl_least key ps p _ rfl
  obtain ⟨hleast', hfind'⟩ := foldl_least key qs q _ rfl
  simp only [hkey] at hfind hfind'
  rw [h] at hfind
  rw [← h] at hfind'
  have hsame := Int.le_antisymm (hleast _ (List.mem_of_find?_eq_some hfind')) (hleast' _ (List.mem_of_find?_eq_some hfind))
  rw [hkey] at hsame
  rw [hsame, ← h, hfind'] at hfind
  exact (Option.some.inj hfind).symm

theorem SameFirsts.eq_nil {ps qs : List Policy} (h : SameFirsts ps qs) : ps = [] ↔ qs = [] := by
  have nil : ∀ {ps qs : List Policy}, SameFirsts ps qs → ps = [] → qs = [] := by
    rintro _ qs h rfl
    cases qs with
    | nil => rfl
    | cons q qs => simpa using h q.instant
  exact ⟨nil h, nil h.symm⟩

theorem SameFirsts.earliest_latest {ps qs : List Policy} (h : SameFirsts ps qs) :
    earliest ps = earliest qs ∧ latest ps = latest qs := by
  cases ps with
  | nil =>
    obtain rfl := h.eq_nil.mp rfl
    exact ⟨rfl, rfl⟩
  | cons p ps =>
    cases qs with
    | nil => cases h.eq_nil.mpr rfl
    | cons q qs =>
      have hearliest := h.foldl instant fun _ _ => Iff.rfl
      have hlatest := h.foldl (fun p => -p.instant) fun _ _ => by omega
      simp only [Int.neg_lt_neg_iff] at hlatest
      exact ⟨congrArg some hearliest, congrArg some hlatest⟩

end Policy

/-! ### Standings -/

namespace Standing

/-- The same holds at one path, but for the order of policies. -/
structure Alike (s s' : Standing) : Prop where
  path : s.path = s'.path
  group : s.group = s'.group
  excludes : s.excludes = s'.excludes
  includes : s.includes = s'.includes
  policies : Policy.SameFirsts s.policies s'.policies

namespace Alike
variable {s s' : Standing} {h : Host} {clock : Clock} {isDryRun : Bool}

theorem refl (s : Standing) : s.Alike s := ⟨rfl, rfl, rfl, rfl, .refl _⟩

theorem symm (ha : s.Alike s') : s'.Alike s :=
  ⟨ha.path.symm, ha.group.symm, ha.excludes.symm, ha.includes.symm, ha.policies.symm⟩

theorem moved (ha : s.Alike s') (path : Path) : (s.moved path).Alike (s'.moved path) :=
  ⟨rfl, ha.group, ha.excludes, ha.includes, ha.policies⟩

theorem resolve (ha : s.Alike s') : s.resolve clock = s'.resolve clock := by
  obtain ⟨hearliest, hlatest⟩ := ha.policies.earliest_latest
  unfold Standing.resolve isExcluded
  rw [hearliest, hlatest, ha.path, ha.excludes, ha.includes]

theorem plan (ha : s.Alike s') : h.plan clock s = h.plan clock s' := by
  unfold Host.plan wantedMode Host.wantedGid
  rw [ha.path, ha.group, ha.resolve]

theorem change? (ha : s.Alike s') : h.change? clock isDryRun s = h.change? clock isDryRun s' := by
  unfold Host.change? Plan.change?
  rw [ha.plan, ha.path, ha.group]

theorem fault? (ha : s.Alike s') : h.fault? clock isDryRun s = h.fault? clock isDryRun s' := by
  unfold Host.fault?
  rw [ha.plan, ha.path]

end Alike

end Standing

namespace Tree

/-! ### Runs over nodes that match -/

/-- Two runs end without a fault or neither does, and if they do they leave the same modes and groups and report the
same changes in some order. -/
structure Applied.SameEffect (a b : Applied) : Prop where
  ends : a.fault = none ↔ b.fault = none
  infoAt : a.fault = none → ∀ l, a.run.host.disk.infoAt l = b.run.host.disk.infoAt l
  changes : a.fault = none → a.run.report.changes.Perm b.run.report.changes

section
variable {h : Host} {t t' : Tree} {clock : Clock} {isDryRun : Bool}

theorem apply_ends_iff (hapart : Progress.Apart h t.managed) :
    (t.apply h clock isDryRun).fault = none ↔ ∀ s ∈ t.managed, h.fault? clock isDryRun s = none := by
  rw [apply_fault_eq clock isDryRun hapart, List.findSome?_eq_none_iff]

/-- What is seen at a location at the end is the same if the nodes that lead there are alike. -/
theorem infoAt_congr (hapart : Progress.Apart h t.managed) (hapart' : Progress.Apart h t'.managed)
    (hok : (t.apply h clock isDryRun).fault = none) (hok' : (t'.apply h clock isDryRun).fault = none) {l : Location}
    (forth : ∀ s ∈ t.managed, h.locate s.path false = .ok l → ∃ s' ∈ t'.managed, s.Alike s')
    (back : ∀ s' ∈ t'.managed, h.locate s'.path false = .ok l → ∃ s ∈ t.managed, s.Alike s') :
    (t.apply h clock isDryRun).run.host.disk.infoAt l = (t'.apply h clock isDryRun).run.host.disk.infoAt l := by
  by_cases hl : ∃ s ∈ t.managed, h.locate s.path false = .ok l
  · obtain ⟨s, hs, hl⟩ := hl
    obtain ⟨s', hs', halike⟩ := forth s hs hl
    obtain ⟨p, k, hp, hk, hinfo⟩ := (apply_ok hapart hok).1 s hs
    obtain ⟨p', k', hp', hk', hinfo'⟩ := (apply_ok hapart' hok').1 s' hs'
    rw [← halike.path] at hk'
    rw [← halike.plan] at hp'
    obtain rfl : k = l := Except.ok.inj (hk.symm.trans hl)
    obtain rfl : k' = k := Except.ok.inj (hk'.symm.trans hl)
    obtain rfl : p = p' := Except.ok.inj (hp.symm.trans hp')
    rw [hinfo, hinfo']
  · have hfree : ∀ s ∈ t.managed, h.locate s.path false ≠ .ok l := fun s hs hl' => hl ⟨s, hs, hl'⟩
    have hfree' : ∀ s' ∈ t'.managed, h.locate s'.path false ≠ .ok l := fun s' hs' hl' => by
      obtain ⟨s, hs, halike⟩ := back s' hs' hl'
      exact hfree s hs (halike.path ▸ hl')
    rw [apply_frame.infoAt l hfree, apply_frame.infoAt l hfree']

theorem nodup_changes {ss : List Standing} (hn : (ss.map (·.path)).Nodup) :
    (ss.filterMap (h.change? clock isDryRun)).Nodup := by
  have hpath : ∀ s c, h.change? clock isDryRun s = some c → c.path = s.path := by
    intro s c hc
    obtain ⟨p, -, hc⟩ := Option.bind_eq_some_iff.mp hc
    exact Plan.path_of_change? hc
  rw [List.Nodup, List.pairwise_filterMap]
  refine (List.pairwise_map.mp hn).imp fun {s s'} hne c hc c' hc' heq => hne ?_
  rw [← hpath s c hc, ← hpath s' c' hc', heq]

theorem sameEffect_of_matches (hapart : Progress.Apart h t.managed) (hapart' : Progress.Apart h t'.managed)
    (hn : (t.managed.map (·.path)).Nodup) (hn' : (t'.managed.map (·.path)).Nodup) (hm : Matches Standing.Alike t.managed t'.managed)
    (clock : Clock) (isDryRun : Bool) : (t.apply h clock isDryRun).SameEffect (t'.apply h clock isDryRun) := by
  have hends : (t.apply h clock isDryRun).fault = none ↔ (t'.apply h clock isDryRun).fault = none := by
    rw [apply_ends_iff hapart, apply_ends_iff hapart']
    constructor
    · intro hall s' hs'
      obtain ⟨s, hs, halike⟩ := hm.back s' hs'
      rw [← halike.fault?, hall s hs]
    · intro hall s hs
      obtain ⟨s', hs', halike⟩ := hm.forth s hs
      rw [halike.fault?, hall s' hs']
  refine ⟨hends, fun hok l => ?_, fun hok => ?_⟩
  · exact infoAt_congr hapart hapart' hok (hends.mp hok) (fun s hs _ => hm.forth s hs) fun s' hs' _ => hm.back s' hs'
  · rw [(apply_ok hapart hok).2, (apply_ok hapart' (hends.mp hok)).2]
    refine (List.perm_ext_iff_of_nodup (nodup_changes hn) (nodup_changes hn')).mpr fun c => ?_
    rw [List.mem_filterMap, List.mem_filterMap]
    constructor
    · rintro ⟨s, hs, hc⟩
      obtain ⟨s', hs', halike⟩ := hm.forth s hs
      exact ⟨s', hs', halike.change? ▸ hc⟩
    · rintro ⟨s', hs', hc⟩
      obtain ⟨s, hs, halike⟩ := hm.back s' hs'
      exact ⟨s, hs, halike.change?.symm ▸ hc⟩

end

/-! ### Built trees -/

section
variable {h₀ h : Host} {config config' : Value} {root : Path} {t t' : Tree}

theorem mem_managed_iff (hd : h₀.disk.WellFormed) (hb : (build h₀ config root).outcome = .ok t) {s : Standing} :
    s ∈ t.managed ↔ s ∈ t.walk ∧ s.path ≠ t.path := by
  rw [walk_eq, List.mem_append, List.mem_singleton]
  constructor
  · intro hs
    obtain ⟨names, hne, -, hpath⟩ := (placed_build hd hb).1.managed_below hs
    have habove : t.path.Above s.path := ⟨names, hne, hpath⟩
    exact ⟨Or.inl hs, habove.ne.symm⟩
  · rintro ⟨hs | rfl, hne⟩
    · exact hs
    · exact absurd rfl hne

theorem managed_paths_nodup (hd : h₀.disk.WellFormed) (hb : (build h₀ config root).outcome = .ok t) :
    (t.managed.map (·.path)).Nodup := by
  have hnodup := (placed_build hd hb).1.paths_nodup
  rw [walk_eq, List.map_append] at hnodup
  exact (List.nodup_append.mp hnodup).1

/-- Where no link stands above a node, runs over trees with matching nodes have the same effect. -/
theorem sameEffect_of_built (hd : h₀.disk.WellFormed) (hb : (build h₀ config root).outcome = .ok t)
    (hb' : (build h₀ config' root).outcome = .ok t') (hm : Matches Standing.Alike t.walk t'.walk)
    (hu : ∀ s ∈ t.managed, h.Unlinked s.path) (clock : Clock) (isDryRun : Bool) :
    (t.apply h clock isDryRun).SameEffect (t'.apply h clock isDryRun) := by
  have hroot : t.path = t'.path := (placed_build hd hb).2.trans (placed_build hd hb').2.symm
  have hmanaged : Matches Standing.Alike t.managed t'.managed := by
    refine ⟨fun s hs => ?_, fun s' hs' => ?_⟩
    · obtain ⟨hs, hne⟩ := (mem_managed_iff hd hb).mp hs
      obtain ⟨s', hs', halike⟩ := hm.forth s hs
      exact ⟨s', (mem_managed_iff hd hb').mpr ⟨hs', by rwa [← halike.path, ← hroot]⟩, halike⟩
    · obtain ⟨hs', hne⟩ := (mem_managed_iff hd hb').mp hs'
      obtain ⟨s, hs, halike⟩ := hm.back s' hs'
      exact ⟨s, (mem_managed_iff hd hb).mpr ⟨hs, by rwa [halike.path, hroot]⟩, halike⟩
  have hu' : ∀ s' ∈ t'.managed, h.Unlinked s'.path := fun s' hs' => by
    obtain ⟨s, hs, halike⟩ := hmanaged.back s' hs'
    exact halike.path ▸ hu s hs
  exact sameEffect_of_matches (apart_managed hd hb hu) (apart_managed hd hb' hu') (managed_paths_nodup hd hb)
    (managed_paths_nodup hd hb') hmanaged clock isDryRun

end

end Tree

end Curfew
