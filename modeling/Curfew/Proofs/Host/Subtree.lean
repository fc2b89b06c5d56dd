import Curfew.Disk.Glob
import Curfew.Proofs.Host.Entering

/-! Patterns that name a directory. Such a pattern stands for the directory and for all that real directories lead to
below it, hidden names included. -/

namespace Curfew

/-! ### Paths from the top -/

namespace Path
variable {p q w : Path} {names more : List String}

theorem foldl_climb (h : ".." ∉ more) : more.foldl climb names = names ++ more := by
  induction more generalizing names with
  | nil => exact (List.append_nil names).symm
  | cons name more ih =>
    rw [List.mem_cons, not_or] at h
    obtain ⟨hname, hmore⟩ := h
    rw [List.foldl_cons, climb, if_neg (Ne.symm hname), ih hmore, List.append_assoc, List.singleton_append]

theorem climbs_foldl : ∀ {names : List String}, ".." ∉ names → ".." ∉ more.foldl climb names := by
  induction more with
  | nil => exact id
  | cons name more ih =>
    intro names h
    refine ih ?_
    unfold climb
    by_cases hname : name = ".."
    · rw [if_pos hname]
      exact fun hmem => h ((List.dropLast_sublist _).subset hmem)
    · rw [if_neg hname, List.mem_append, List.mem_singleton, not_or]
      exact ⟨h, Ne.symm hname⟩

theorem climbs_absolute : ".." ∉ (p.absolute w).names := climbs_foldl (by simp)

theorem absolute_eq_self (hp : p.root ≠ .working) (h : ".." ∉ p.names) : p.absolute w = p := by
  have hjoin : w.join p = p := if_neg hp
  unfold absolute
  simp only [hjoin, foldl_climb h, List.nil_append]

theorem join_eq_below (hq : q.root = .working) : p.join q = p.below q.names := if_pos hq

theorem ne_dot_of_mem_ofText {s name : String} (h : name ∈ (ofText s).names) : name ≠ "." := by
  have hkept := (List.mem_filter.mp h).2
  simp only [ne_eq, decide_eq_true_eq] at hkept
  exact hkept.2

end Path

/-! ### Down real directories -/

namespace Resolved
variable {disk : Entry}

theorem walk_real {again : Location → List String → Except SystemError Resolved} {follow : Bool} :
    ∀ (names : List String) {here : Location} {e : Entry}, (∀ name ∈ names, name ≠ "." ∧ name ≠ "..") →
      disk.get? (here ++ names) = some e → Host.isLinkEntry e = false →
      walk disk again follow here names = .error .nameTooLong ∨ walk disk again follow here names = .ok (.found (here ++ names))
  | [], here, e, _, _, _ => Or.inr (by rw [walk, List.append_nil])
  | name :: rest, here, e, hdots, he, hlink => by
    rw [Entry.get?_append] at he
    obtain ⟨d, hd, he⟩ := Option.bind_eq_some_iff.mp he
    obtain ⟨a, children, child, rfl, hc, he⟩ := Entry.exists_of_get?_cons he
    obtain ⟨hname, hrest⟩ := List.forall_mem_cons.mp hdots
    have hbelow : disk.get? (here ++ [name] ++ rest) = some e := by
      rw [List.append_assoc, List.singleton_append, Entry.get?_directory hd hc]
      exact he
    rw [walk_cons]
    cases step_of_directory hd hname with
    | tooLong _ hturn =>
      rw [hturn]
      exact Or.inl rfl
    | free hfree => cases hc.symm.trans hfree
    | link gid target hchild =>
      -- No names lead on from a link.
      obtain rfl := Option.some.inj (hc.symm.trans hchild)
      cases rest with
      | nil =>
        obtain rfl := Option.some.inj he
        cases hlink
      | cons => cases he
    | down _ _ _ hturn =>
      rw [hturn]
      simpa using walk_real rest hrest hbelow hlink

/-- Names lead down through real directories unless one of them is too long. -/
theorem ofNames_real (links : Nat) (follow : Bool) {names : List String} {here : Location} {e : Entry}
    (hdots : ∀ name ∈ names, name ≠ "." ∧ name ≠ "..") (he : disk.get? (here ++ names) = some e)
    (hlink : Host.isLinkEntry e = false) :
    ofNames disk follow links here names = .error .nameTooLong ∨
      ofNames disk follow links here names = .ok (.found (here ++ names)) := by
  cases links <;> exact walk_real names hdots he hlink

theorem canBeAsked_intercalate {names : List String} :
    CanBeAsked (String.intercalate "/" names) ↔ ∀ name ∈ names, CanBeAsked name := by
  induction names with
  | nil => simp [CanBeAsked, hasBytes]
  | cons name names ih =>
    cases names with
    | nil => simp
    | cons next names =>
      have hslash : CanBeAsked "/" := by decide
      rw [String.intercalate_cons_cons, canBeAsked_append, canBeAsked_append, ih, List.forall_mem_cons (a := name)]
      simp [hslash]

theorem canBeAsked_text {p : Path} (hp : p.root ≠ .working) : CanBeAsked p.text ↔ ∀ name ∈ p.names, CanBeAsked name := by
  have hroot : CanBeAsked (String.ofList (Path.Root.chars p.root)) := by
    cases p.root <;> decide
  simp only [Path.text, hp, decide_false, Bool.false_and, Bool.false_eq_true, ↓reduceIte]
  rw [canBeAsked_append, canBeAsked_intercalate]
  exact and_iff_right hroot

end Resolved

namespace Host
variable {h : Host} {base target : Path} {top : Location} {names more : List String} {pattern : String} {found : List Path}

/-- What real directories lead to below a path is found there unless the path or a name is too long. -/
theorem locate_real {e : Entry} (hbase : base.root ≠ .working) (hs : h.disk.Spelled) (hl : h.locate base true = .ok top)
    (hdots : ∀ name ∈ names, name ≠ "." ∧ name ≠ "..") (he : h.disk.get? (top ++ names) = some e) (hlink : isLinkEntry e = false) :
    h.locate (base.below names) true = .ok (top ++ names) ∨
      ∃ q, h.locate (base.below names) true = .error (.system .nameTooLong q) := by
  cases names with
  | nil => exact Or.inl (by rw [Path.below_nil, List.append_nil]; exact hl)
  | cons name names =>
    obtain ⟨htext, hfound⟩ := locate_eq_ok.mp hl
    obtain ⟨links, hon⟩ := Resolved.ofNames_on _ _ _ hfound
    have hasked : Resolved.CanBeAsked (base.below (name :: names)).text := by
      have habove := (Resolved.canBeAsked_text hbase).mp (Resolved.canBeAsked_of_checkText htext)
      refine (Resolved.canBeAsked_text (p := base.below (name :: names)) hbase).mpr fun n hn => ?_
      rcases List.mem_append.mp hn with hn | hn
      · exact habove n hn
      · exact hs.canBeAsked he n (List.mem_append_right _ hn)
    rcases Resolved.checkText_of_canBeAsked hasked with hchecked | hlong
    · have hnames : Resolved.ofNames h.disk true Resolved.mostLinks (h.start base) (base.names ++ name :: names) =
          Resolved.ofNames h.disk true links top (name :: names) := hon true (name :: names) (by simp)
      rcases Resolved.ofNames_real links true hdots he hlink with hlong | hreal
      · refine Or.inr ⟨base.below (name :: names), ?_⟩
        unfold locate resolve Resolved.ofPath
        rw [hchecked]
        simp only [bind, Except.bind]
        rw [show (if (base.below (name :: names)).root = .working then h.workingDirectory else []) = h.start base from rfl,
          show (base.below (name :: names)).names = base.names ++ name :: names from rfl, hnames, hlong]
        rfl
      · exact Or.inl (locate_eq_ok.mpr ⟨hchecked, hnames.trans hreal⟩)
    · refine Or.inr ⟨.ofText (base.below (name :: names)).text, ?_⟩
      unfold locate resolve Resolved.ofPath
      rw [hlong]
      rfl

/-! ### Patterns -/

theorem glob_eq_ok : (h.glob base pattern).outcome = .ok found ↔
    ∃ b paths, h.leadsToDirectory (base.join (.ofText pattern)) = .ok b ∧
      (if b then h.subtree (base.join (.ofText pattern)) else h.expand (base.join (.ofText pattern))) = .ok paths ∧
      found = (paths.map h.absolute).eraseDups := by
  unfold glob
  simp only [Told.outcome_bind, Told.outcome_ofExcept, Told.outcome_pure, bind_eq_ok, Except.ok.injEq]
  constructor
  · rintro ⟨paths, ⟨b, hb, hpaths⟩, _, -, rfl⟩
    exact ⟨b, paths, hb, hpaths, rfl⟩
  · rintro ⟨b, paths, hb, hpaths, rfl⟩
    exact ⟨paths, ⟨b, hb, hpaths⟩, (), rfl, rfl⟩

theorem subtree_eq_ok {paths : List Path} : h.subtree target = .ok paths ↔ ∃ l e, h.look target true = .ok (l, e) ∧
    (∀ below ∈ e.descendants, checkOpens (target.below below.1) below.2 = .ok ()) ∧
    paths = target :: e.descendants.map fun below => target.below below.1 := by
  unfold subtree
  simp only [bind_eq_ok, Prod.exists]
  constructor
  · rintro ⟨l, e, hl, _, hopens, hpaths⟩
    refine ⟨l, e, hl, fun below hbelow => ?_, ?_⟩
    · exact forM_eq_ok.mp hopens (target.below below.1, below.2) (List.mem_map.mpr ⟨below, hbelow, rfl⟩)
    · rw [← Except.ok.inj hpaths, List.map_map]
      rfl
  · rintro ⟨l, e, hl, hopens, rfl⟩
    refine ⟨l, e, hl, (), forM_eq_ok.mpr fun below hbelow => ?_, ?_⟩
    · obtain ⟨further, hfurther, rfl⟩ := List.mem_map.mp hbelow
      exact hopens further hfurther
    · rw [List.map_map]
      rfl

/-- A pattern that names a directory stands for all that real directories lead to from there. -/
theorem mem_glob_of_directory {a : Attributes} {children : List (String × Entry)} {e : Entry} (hs : h.disk.Spelled)
    (hbase : base.root ≠ .working) (hrelative : (Path.ofText pattern).root = .working)
    (hdots : ".." ∉ (base.below ((Path.ofText pattern).names ++ more)).names) (hl : h.locate base true = .ok top)
    (hd : h.disk.get? (top ++ (Path.ofText pattern).names) = some (.directory a children))
    (he : h.disk.get? (top ++ (Path.ofText pattern).names ++ more) = some e)
    (hg : (h.glob base pattern).outcome = .ok found) : base.below ((Path.ofText pattern).names ++ more) ∈ found := by
  obtain ⟨b, paths, hb, hpaths, rfl⟩ := glob_eq_ok.mp hg
  rw [Path.join_eq_below hrelative] at hb hpaths
  have hplain : ∀ name ∈ (Path.ofText pattern).names, name ≠ "." ∧ name ≠ ".." := fun name hname => by
    refine ⟨Path.ne_dot_of_mem_ofText hname, fun heq => hdots ?_⟩
    rw [← heq]
    exact List.mem_append_right _ (List.mem_append_left _ hname)
  have hlocate : h.locate (base.below (Path.ofText pattern).names) true = .ok (top ++ (Path.ofText pattern).names) := by
    refine (locate_real hbase hs hl hplain hd rfl).resolve_right ?_
    rintro ⟨q, hlong⟩
    exact locate_ne_tooLong hb q hlong
  have hlook := look_eq_ok.mpr ⟨hlocate, hd⟩
  obtain rfl : b = true := by
    unfold leadsToDirectory test at hb
    rw [hlook] at hb
    exact (Except.ok.inj hb).symm
  rw [if_pos rfl] at hpaths
  obtain ⟨l, f, hlook', -, rfl⟩ := subtree_eq_ok.mp hpaths
  obtain ⟨rfl, rfl⟩ := Prod.mk.inj (Except.ok.inj (hlook.symm.trans hlook'))
  rw [List.mem_eraseDups]
  refine List.mem_map.mpr ⟨base.below ((Path.ofText pattern).names ++ more), ?_, Path.absolute_eq_self hbase hdots⟩
  rw [← Path.below_below]
  cases more with
  | nil => exact List.mem_cons.mpr (Or.inl (Path.below_nil _))
  | cons name more =>
    rw [Entry.get?_append, hd] at he
    exact List.mem_cons_of_mem _ (List.mem_map_of_mem (Entry.mem_descendants_of_get? he))

end Host

end Curfew
