import Curfew.Proofs.Disk.Descendants
import Curfew.Proofs.Host.Aliases
import Curfew.Proofs.Host.Expansion
import Mathlib.Data.List.Induction

/-! Patterns behind two paths to one place. -/

namespace Curfew

/-! ### Names that stay below -/

namespace Path
variable {base top names more : List String}

/-- Whether no double dot among names leads above what lies so many names further up. -/
def stays : Nat → List String → Bool
  | _, [] => true
  | depth, name :: names => if name = ".." then decide (0 < depth) && stays (depth - 1) names else stays (depth + 1) names

theorem foldl_climb_of_stays : ∀ {top : List String}, stays top.length names = true →
    names.foldl climb (base ++ top) = base ++ names.foldl climb top := by
  induction names with
  | nil => exact fun _ => rfl
  | cons name names ih =>
    intro top h
    unfold stays at h
    rw [List.foldl_cons, List.foldl_cons]
    by_cases hname : name = ".."
    · rw [if_pos hname, Bool.and_eq_true, decide_eq_true_eq] at h
      have htop : top ≠ [] := List.length_pos_iff.mp h.1
      rw [climb, if_pos hname, climb, if_pos hname, List.dropLast_append_of_ne_nil htop]
      exact ih (by rw [List.length_dropLast]; exact h.2)
    · rw [if_neg hname] at h
      rw [climb, if_neg hname, climb, if_neg hname, List.append_assoc]
      exact ih (by rw [List.length_append]; exact h)

theorem stays_congr (h : List.Forall₂ (fun a b => a = ".." ↔ b = "..") names more) :
    ∀ depth, stays depth names = stays depth more := by
  induction h with
  | nil => exact fun _ => rfl
  | cons hab _ ih =>
    intro depth
    rw [stays, stays, ih, ih]
    simp only [hab]

theorem stays_append (hmore : ".." ∉ more) : ∀ depth, stays depth (names ++ more) = stays depth names := by
  induction names with
  | nil =>
    induction more with
    | nil => exact fun _ => rfl
    | cons name more ih =>
      intro depth
      obtain ⟨hname, hmore⟩ := not_or.mp (mt List.mem_cons.mpr hmore)
      show stays depth (name :: more) = true
      unfold stays
      rw [if_neg (Ne.symm hname)]
      exact ih hmore (depth + 1)
  | cons name names ih =>
    intro depth
    rw [List.cons_append, stays, stays, ih, ih]

end Path

namespace Host
variable {h : Host} {p q : Path} {parts names rel : List String} {part : String} {only : Bool}

theorem absolute_below (hroot : p.root ≠ .working) (hdots : ".." ∉ p.names) (hstays : Path.stays 0 names = true) :
    h.absolute (p.below names) = p.below (names.foldl Path.climb []) := by
  have hjoin : h.workingPath.join (p.below names) = p.below names := if_neg hroot
  have hfold : names.foldl Path.climb (p.names ++ []) = p.names ++ names.foldl Path.climb [] :=
    Path.foldl_climb_of_stays hstays
  rw [List.append_nil] at hfold
  unfold absolute Path.absolute
  rw [hjoin]
  simp only [Path.below, List.foldl_append, Path.foldl_climb hdots, List.nil_append, hfold]

/-- Names that parts of a pattern stand for behind a base: each stands for itself, and one with wildcards for the names that
match it. -/
inductive Shown (h : Host) (base : Path) : List String → List String → Prop
  | nil : Shown h base [] []
  | itself {parts names : List String} (part : String) : Shown h base parts names →
    Shown h base (parts ++ [part]) (names ++ [part])
  | entry {parts names : List String} {part n : String} {children : List (String × Entry)} : Shown h base parts names →
    Wildcard.isPattern part = true → h.children (base.below names) = .ok children → n ∈ children.map (·.1) →
    Wildcard.matchName part n = true → Shown h base (parts ++ [part]) (names ++ [n])

theorem shown_self (h : Host) (base : Path) (parts : List String) : h.Shown base parts parts := by
  induction parts using List.reverseRecOn with
  | nil => exact .nil
  | append_singleton parts part ih => exact ih.itself part

/-- Paths are names behind one base, and others the same names behind another. -/
def Mirrored (p q : Path) (P : List String → Prop) (as bs : List Path) : Prop :=
  ∃ rels : List (List String), as = rels.map p.below ∧ bs = rels.map q.below ∧ ∀ rel ∈ rels, P rel

theorem below_child (p : Path) (rel : List String) (n : String) : (p.below rel).child n = p.below (rel ++ [n]) := by
  simp [Path.child, Path.below]

theorem Mirrored.flatten {P : List String → Prop} {as bs : List (List Path)} (hall : List.Forall₂ (Mirrored p q P) as bs) :
    Mirrored p q P as.flatten bs.flatten := by
  induction hall with
  | nil => exact ⟨[], rfl, rfl, by simp⟩
  | cons hab _ ih =>
    obtain ⟨rels, rfl, rfl, hrels⟩ := hab
    obtain ⟨more, ha, hb, hmore⟩ := ih
    refine ⟨rels ++ more, ?_, ?_, List.forall_mem_append.mpr ⟨hrels, hmore⟩⟩
    · rw [List.flatten_cons, ha, List.map_append]
    · rw [List.flatten_cons, hb, List.map_append]

theorem namesFor_beside (hs : h.SamePlace p q) (hshown : h.Shown q parts rel) (hrel : h.SameLimits p q rel)
    (hlimits : ∀ n, h.Shown q (parts ++ [part]) (rel ++ [n]) → h.SameLimits p q (rel ++ [n])) (only : Bool) :
    Beside DiskFault.Alike (fun ns ns' => ns = ns' ∧ ∀ n ∈ ns, h.Shown q (parts ++ [part]) (rel ++ [n]))
      (h.namesFor (p.below rel) part only) (h.namesFor (q.below rel) part only) := by
  unfold namesFor
  cases hpattern : Wildcard.isPattern part with
  | false =>
    have hself := hshown.itself part
    have hthere : h.isThere (p.below (rel ++ [part])) = h.isThere (q.below (rel ++ [part])) :=
      (hs.agree (hlimits part hself) (Or.inl (by simp))).isThere
    rw [below_child, below_child, hthere]
    refine .ok ⟨rfl, ?_⟩
    split <;> simp [hself]
  | true =>
    have hagree : h.Agree true (p.below rel) (q.below rel) := hs.agree hrel (Or.inr rfl)
    unfold matchingNames
    simp only [↓reduceIte]
    rcases hagree.children.inv with ⟨children, _, hp, hq, rfl⟩ | ⟨fault, _, hp, hq, hf⟩ <;> rw [hp, hq]
    · have henters : ∀ n ∈ children.map (·.1), Wildcard.matchName part n = true →
          h.entersDirectory ((p.below rel).child n) = h.entersDirectory ((q.below rel).child n) := fun n hn hmatch => by
        rw [below_child, below_child]
        exact (hs.agree (hlimits n (hshown.entry hpattern hq hn hmatch)) (Or.inr rfl)).entersDirectory
      refine .ok ⟨?_, fun n hn => ?_⟩
      · split <;> simp only [List.filter_filter] <;> refine List.filter_congr fun n hn => ?_ <;>
          cases hmatch : Wildcard.matchName part n <;> simp [henters, hn, hmatch]
      · have hmatch := (List.mem_filter.mp hn).2
        exact hshown.entry hpattern hq (List.mem_filter.mp (mem_shown.mp hn).1).1 hmatch
    · cases hf with
      | same => cases fault <;> first | exact .error (.same _) | exact .ok ⟨rfl, by simp⟩
      | _ => exact .ok ⟨rfl, by simp⟩

/-- The paths that the names of a pattern stand for behind both bases. -/
theorem expandNames_beside (hs : h.SamePlace p q) (hplain : ∀ n ∈ p.names ++ q.names, Wildcard.isPattern n = false)
    (hlimits : ∀ front names, front <+: parts → h.Shown q front names → h.SameLimits p q names) (hne : parts ≠ [])
    (only : Bool) : Beside DiskFault.Alike (Mirrored p q (h.Shown q parts)) (h.expandNames p.root only (p.names ++ parts).reverse)
      (h.expandNames q.root only (q.names ++ parts).reverse) := by
  -- The last part is looked for in the directories that the parts before it stand for.
  induction parts using List.reverseRecOn generalizing only with
  | nil => exact absurd rfl hne
  | append_singleton parts part ih =>
    have hany : ∀ names : List String, (∀ n ∈ names, Wildcard.isPattern n = false) →
        (names ++ parts).reverse.any Wildcard.isPattern = parts.any Wildcard.isPattern := fun names hnames => by
      have hnone : names.any Wildcard.isPattern = false := List.any_eq_false.mpr fun n hn => by simp [hnames n hn]
      rw [List.any_reverse, List.any_append, hnone, Bool.false_or]
    have hdirectories : Beside DiskFault.Alike (Mirrored p q (h.Shown q parts))
        (h.directoriesOf p.root (p.names ++ parts).reverse) (h.directoriesOf q.root (q.names ++ parts).reverse) := by
      unfold directoriesOf
      rw [hany _ fun n hn => hplain n (List.mem_append_left _ hn), hany _ fun n hn => hplain n (List.mem_append_right _ hn)]
      split
      · rename_i hpattern
        refine ih (fun front names hfront => hlimits front names (hfront.trans (List.prefix_append _ _))) ?_ true
        rintro rfl
        cases hpattern
      · refine .ok ⟨[parts], ?_, ?_, ?_⟩ <;> simp [Path.below, shown_self h q parts]
    have hreverse : ∀ names : List String, (names ++ (parts ++ [part])).reverse = part :: (names ++ parts).reverse := by simp
    rw [hreverse, hreverse, expandNames_cons, expandNames_cons]
    refine hdirectories.bind fun as bs hab => ?_
    obtain ⟨rels, rfl, rfl, hrels⟩ := hab
    have hfound : List.Forall₂ (fun d d' => Beside DiskFault.Alike (Mirrored p q (h.Shown q (parts ++ [part])))
        (do return (← h.namesFor d part only).map d.child) (do return (← h.namesFor d' part only).map d'.child))
        (rels.map p.below) (rels.map q.below) := by
      rw [List.forall₂_map_left_iff, List.forall₂_map_right_iff, List.forall₂_same]
      intro rel hrel
      have hlimit := hlimits parts rel (List.prefix_append _ _) (hrels rel hrel)
      refine (namesFor_beside hs (hrels rel hrel) hlimit (fun n => hlimits _ _ (List.prefix_refl _)) only).bind ?_
      rintro ns _ ⟨rfl, hns⟩
      refine .ok ⟨ns.map fun n => rel ++ [n], ?_, ?_, by simpa using hns⟩ <;> simp [below_child]
    exact (Beside.mapM hfound).bind fun as bs hall => .ok (Mirrored.flatten hall)

/-! ### All that a pattern stands for -/

/-- Names lead from the directory at a path to an entry somewhere below it. -/
def Contains (h : Host) (path : Path) (names : List String) : Prop :=
  ∃ children e, h.children path = .ok children ∧ (names, e) ∈ Entry.allDescendants children

/-- Two paths from the top to one directory, in which no name is a double dot or a pattern. -/
structure Aliases (h : Host) (p q : Path) : Prop extends SamePlace h p q where
  directory : ∃ children, h.children q = .ok children
  dots : ".." ∉ p.names ++ q.names
  plain : ∀ n ∈ p.names ++ q.names, Wildcard.isPattern n = false

theorem allWellFormed_of_children {children : List (String × Entry)} (hd : h.disk.WellFormed)
    (hc : h.children p = .ok children) : Entry.AllWellFormed children := by
  obtain ⟨l, a, hlook⟩ := children_eq_ok.mp hc
  exact (hd.get? (look_eq_ok.mp hlook).2).2

theorem not_dots_of_isSegment {name : String} (hn : Fragment.isSegment name = true) : name ≠ ".." := by
  rintro rfl
  exact absurd hn (by decide)

theorem Contains.dots (hd : h.disk.WellFormed) (hc : h.Contains p names) : ".." ∉ names := by
  obtain ⟨children, e, hchildren, hmem⟩ := hc
  have hsegments := Entry.isSegment_of_mem_allDescendants (allWellFormed_of_children hd hchildren) _ hmem
  exact fun hdots => not_dots_of_isSegment (hsegments _ hdots) rfl

/-- No part of a pattern stands for a double dot but a double dot itself. -/
theorem Shown.dots (hd : h.disk.WellFormed) (hs : h.Shown p parts names) :
    List.Forall₂ (fun a b => a = ".." ↔ b = "..") parts names := by
  induction hs with
  | nil => exact .nil
  | itself part _ ih => exact List.rel_append ih (.cons Iff.rfl .nil)
  | entry _ hpattern hchildren hn _ ih =>
    rename_i part _ _ _ _
    obtain ⟨child, hchild, rfl⟩ := List.mem_map.mp hn
    have hsegment := (Entry.allWellFormed_iff.mp (allWellFormed_of_children hd hchildren) child hchild).1
    have hpart : part ≠ ".." := by
      rintro rfl
      cases hpattern
    exact List.rel_append ih (.cons (iff_of_false hpart (not_dots_of_isSegment hsegment)) .nil)

/-- Of two lists of paths, one has names behind one base where the other has them behind the other. -/
def SameBehind (p q : Path) (as bs : List Path) : Prop := ∀ names, p.below names ∈ as ↔ q.below names ∈ bs

theorem Mirrored.mono {P Q : List String → Prop} {as bs : List Path} (hm : Mirrored p q P as bs) (hPQ : ∀ rel, P rel → Q rel) :
    Mirrored p q Q as bs := by
  obtain ⟨rels, ha, hb, hrels⟩ := hm
  exact ⟨rels, ha, hb, fun rel hrel => hPQ rel (hrels rel hrel)⟩

/-- Made absolute, paths behind two bases still have the same names behind them. -/
theorem Mirrored.mem_absolute {as bs : List Path} (hm : Mirrored p q (fun rel => Path.stays 0 rel = true) as bs)
    (hroot : p.root ≠ .working ∧ q.root ≠ .working) (hdots : ".." ∉ p.names ++ q.names) :
    SameBehind p q (as.map h.absolute).eraseDups (bs.map h.absolute).eraseDups := by
  intro names
  obtain ⟨rels, rfl, rfl, hrels⟩ := hm
  obtain ⟨hp, hq⟩ := not_or.mp (mt List.mem_append.mpr hdots)
  have mem : ∀ base : Path, base.root ≠ .working → ".." ∉ base.names →
      (base.below names ∈ ((rels.map base.below).map h.absolute).eraseDups ↔
        ∃ rel ∈ rels, rel.foldl Path.climb [] = names) := by
    intro base hbase hbasedots
    rw [List.mem_eraseDups, List.map_map, List.mem_map]
    refine exists_congr fun rel => and_congr_right fun hrel => ?_
    rw [Function.comp_apply, absolute_below hbase hbasedots (hrels rel hrel), Path.below_inj]
  rw [mem p hroot.1 hp, mem q hroot.2 hq]

theorem expand_beside (ha : h.Aliases p q)
    (hlimits : ∀ front names, front <+: parts → h.Shown q front names → h.SameLimits p q names) :
    Beside DiskFault.Alike (Mirrored p q (h.Shown q parts)) (h.expand (p.below parts)) (h.expand (q.below parts)) := by
  have hany : ∀ base : Path, (∀ n ∈ base.names, Wildcard.isPattern n = false) →
      (base.below parts).names.any Wildcard.isPattern = parts.any Wildcard.isPattern := fun base hbase => by
    have hnone : base.names.any Wildcard.isPattern = false := List.any_eq_false.mpr fun n hn => by simp [hbase n hn]
    rw [Path.below, List.any_append, hnone, Bool.false_or]
  unfold expand
  rw [hany p fun n hn => ha.plain n (List.mem_append_left _ hn), hany q fun n hn => ha.plain n (List.mem_append_right _ hn)]
  split
  · rename_i hpattern
    refine expandNames_beside ha.toSamePlace ha.plain hlimits ?_ false
    rintro rfl
    cases hpattern
  · have hself : h.Shown q parts parts := shown_self h q parts
    have hlimit := hlimits parts parts (List.prefix_refl _) hself
    have hthere : h.isThere (p.below parts) = h.isThere (q.below parts) := by
      by_cases hne : parts = []
      · subst hne
        obtain ⟨children, hq⟩ := ha.directory
        have hp : h.children p = .ok children := by
          have hagree := (ha.agree hlimit (Or.inr rfl)).children
          rw [Path.below_nil, Path.below_nil] at hagree
          exact (hagree.eq_ok_iff children).mpr hq
        rw [Path.below_nil, Path.below_nil, isThere_of_children hp, isThere_of_children hq]
      · exact (ha.agree hlimit (Or.inl hne)).isThere
    rw [hthere]
    split
    · exact .ok ⟨[parts], by simp, by simp, by simpa using hself⟩
    · exact .ok ⟨[], by simp, by simp, by simp⟩

theorem subtree_beside (ha : h.Aliases p q) (hd : h.disk.WellFormed) (hstays : Path.stays 0 parts = true)
    (hlimit : h.SameLimits p q parts) (hbelow : ∀ names, h.Contains (q.below parts) names → h.SameLimits p q (parts ++ names)) :
    Beside DiskFault.Alike (Mirrored p q fun rel => Path.stays 0 rel = true) (h.subtree (p.below parts))
      (h.subtree (q.below parts)) := by
  have hagree : h.Agree true (p.below parts) (q.below parts) := ha.agree hlimit (Or.inr rfl)
  unfold subtree
  rcases hagree.look.inv with ⟨⟨l, e⟩, _, hp, hq, rfl⟩ | ⟨_, _, hp, hq, hf⟩ <;> rw [hp, hq]
  · have hcontains : ∀ below ∈ e.descendants, h.Contains (q.below parts) below.1 := fun below hmem => by
      cases e with
      | directory a children => exact ⟨children, below.2, children_eq_ok.mpr ⟨l, a, hq⟩, by rwa [Entry.descendants] at hmem⟩
      | _ => simp [Entry.descendants] at hmem
    have hopens : List.Forall₂ (fun f f' => Beside DiskFault.Alike Eq (checkOpens f.1 f.2) (checkOpens f'.1 f'.2))
        (e.descendants.map fun below => ((p.below parts).below below.1, below.2))
        (e.descendants.map fun below => ((q.below parts).below below.1, below.2)) := by
      rw [List.forall₂_map_left_iff, List.forall₂_map_right_iff, List.forall₂_same]
      rintro ⟨names, entry⟩ hmem
      have hchecked := ha.checkText (hbelow names (hcontains _ hmem))
      rw [← Path.below_below, ← Path.below_below] at hchecked
      cases entry with
      | directory => exact hchecked
      | _ => exact .ok rfl
    refine (Beside.forM hopens).bind fun _ _ _ => .ok ⟨parts :: e.descendants.map fun below => parts ++ below.1, ?_, ?_, ?_⟩
    · simp [Path.below_below]
    · simp [Path.below_below]
    · refine List.forall_mem_cons.mpr ⟨hstays, fun rel hrel => ?_⟩
      obtain ⟨below, hmem, rfl⟩ := List.mem_map.mp hrel
      rw [Path.stays_append ((hcontains below hmem).dots hd)]
      exact hstays
  · exact .error hf

/-- A pattern that stays below names behind one base stands for the same names as behind the other. -/
theorem glob_beside {chain : List String} {pattern : String} (ha : h.Aliases p q) (hd : h.disk.WellFormed)
    (hrelative : (Path.ofText pattern).root = .working) (hparts : chain ++ (Path.ofText pattern).names = parts)
    (hstays : Path.stays 0 parts = true)
    (hlimits : ∀ front names, front <+: parts → h.Shown q front names → h.SameLimits p q names)
    (hbelow : ∀ names, h.Contains (q.below parts) names → h.SameLimits p q (parts ++ names)) :
    Beside DiskFault.Alike (SameBehind p q) (h.glob (p.below chain) pattern).outcome
      (h.glob (q.below chain) pattern).outcome := by
  have hlimit := hlimits parts parts (List.prefix_refl _) (shown_self h q parts)
  unfold glob
  simp only [Path.join_eq_below hrelative, Path.below_below, hparts, Told.outcome_bind, Told.outcome_ofExcept,
    Told.outcome_pure]
  have hfound : Beside DiskFault.Alike (Mirrored p q fun rel => Path.stays 0 rel = true)
      (do if ← h.leadsToDirectory (p.below parts) then h.subtree (p.below parts) else h.expand (p.below parts))
      (do if ← h.leadsToDirectory (q.below parts) then h.subtree (q.below parts) else h.expand (q.below parts)) := by
    refine (ha.agree hlimit (Or.inr rfl)).leadsToDirectory.bind ?_
    rintro b _ rfl
    cases b with
    | true => exact subtree_beside ha hd hstays hlimit hbelow
    | false =>
      refine (expand_beside ha hlimits).mono (fun _ _ => id) fun as bs hm => hm.mono fun rel hrel => ?_
      rw [← Path.stays_congr (hrel.dots hd)]
      exact hstays
  exact hfound.bind fun as bs hm => .ok (hm.mem_absolute ha.rooted ha.dots)

end Host
end Curfew
