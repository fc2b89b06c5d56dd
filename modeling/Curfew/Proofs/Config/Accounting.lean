import Curfew.Proofs.Config.Settings
import Curfew.Proofs.Value.Entries
import Mathlib.Data.List.Perm.Subperm

/-! What becomes of the keys of a mapping. Each key names a setting, dates a policy or gives the name of a child, so the
settings, the policies and the names together are as many as the keys. Still a child is lost where two keys, a text and
a whole number, give one name: the later key takes the place of the earlier one. -/

namespace Curfew
namespace Fragment

/-! ### Kinds of keys -/

def isReserved : Value → Bool
  | .text name => Directives.reservedKeys.contains name
  | _ => false

def isDate : Value → Bool
  | .time _ => true
  | _ => false

/-- A dated policy is what an entry under its date holds. -/
def HoldsDate (dated : When × ModeSpec) (entry : Value × Value) : Prop :=
  entry.1 = .time dated.1 ∧ ModeSpec.ofValue entry.2 = .ok dated.2

/-- A child is what an entry under its name holds. -/
def HoldsChild (child : String × Entries) (entry : Value × Value) : Prop :=
  childName? entry.1 = some child.1 ∧ nodeEntries entry.2 = .ok child.2

/-- The child of an entry that gives one. -/
def child? (entry : Value × Value) : Option (String × Entries) :=
  (childName? entry.1).bind fun name => (nodeEntries entry.2).toOption.map (name, ·)

/-- The keys that an accepted entry may have. -/
inductive KeyKind (entry : Value × Value) : Prop
  | reserved : isReserved entry.1 = true → isDate entry.1 = false → childName? entry.1 = none → KeyKind entry
  | date (dated : When × ModeSpec) : isReserved entry.1 = false → isDate entry.1 = true → childName? entry.1 = none →
    HoldsDate dated entry → KeyKind entry
  | child (child : String × Entries) : isReserved entry.1 = false → isDate entry.1 = false → HoldsChild child entry →
    KeyKind entry

variable {f g : Fragment} {entry : Value × Value} {entries : Entries}

theorem Accepted.keyKind (h : Accepted entry) : KeyKind entry := by
  obtain ⟨key, value⟩ := entry
  have child : ∀ name, isReserved key = false → isDate key = false → childName? key = some name →
      KeyKind (key, value) := by
    intro name hreserved hdate hname
    obtain ⟨⟨entries, hentries⟩, -⟩ := (accepted_of_childName? hname).mp h
    exact .child (name, entries) hreserved hdate ⟨hname, hentries⟩
  cases key with
  | text name =>
    by_cases hreserved : Directives.reservedKeys.contains name = true
    · exact .reserved hreserved rfl (if_pos hreserved)
    · exact child name (by simpa [isReserved] using hreserved) rfl (if_neg hreserved)
  | int i => exact child _ rfl rfl rfl
  | time date =>
    obtain ⟨spec, hspec⟩ := accepted_time.mp h
    exact .date (date, spec) rfl rfl rfl ⟨rfl, hspec⟩
  | _ =>
    obtain ⟨_, hadd⟩ := h { settings := .empty, children := [] }
    cases hadd

theorem HoldsDate.dated?_eq {dated : When × ModeSpec} (h : HoldsDate dated entry) : dated? entry = some dated := by
  unfold dated?
  rw [h.1]
  simp [h.2, Except.toOption]

theorem HoldsChild.child?_eq {child : String × Entries} (h : HoldsChild child entry) : child? entry = some child := by
  simp [child?, h.1, h.2, Except.toOption]

theorem dated?_eq_none (h : isDate entry.1 = false) : dated? entry = none := by
  unfold dated?
  split
  · rename_i hkey
    rw [hkey] at h
    cases h
  · rfl

theorem child?_eq_none (h : childName? entry.1 = none) : child? entry = none := by
  simp [child?, h]

/-! ### Children one after the other -/

/-- Children with more of them put one after the other. -/
def putAll (more children : List (String × Entries)) : List (String × Entries) :=
  more.foldl (fun children child => putChild child.1 child.2 children) children

theorem children_add (h : f.add entry = .ok g) : g.children = putAll (child? entry).toList f.children := by
  obtain ⟨key, value⟩ := entry
  have given : ∀ name, childName? key = some name → g.children = putAll (child? (key, value)).toList f.children := by
    intro name hname
    rw [add_of_childName? hname] at h
    obtain ⟨entries, hentries, -, rfl⟩ := addChild_eq_ok.mp h
    have hholds : HoldsChild (name, entries) (key, value) := ⟨hname, hentries⟩
    rw [hholds.child?_eq]
    rfl
  cases hname : childName? key with
  | some name => exact given name hname
  | none =>
    rw [child?_eq_none hname]
    cases key with
    | text name =>
      have hreserved : Directives.reservedKeys.contains name = true := by
        by_contra hfree
        rw [childName?, if_neg hfree] at hname
        cases hname
      have hsame : f = g := Except.ok.inj ((if_pos hreserved).symm.trans h)
      rw [hsame]
      rfl
    | time date =>
      unfold add addDated at h
      cases hspec : ModeSpec.ofValue value with
      | error issues => simp [hspec] at h
      | ok spec =>
        simp only [hspec, Except.ok.injEq] at h
        rw [← h]
        rfl
    | int i => cases hname
    | _ => cases h

theorem children_foldlM_add (entries : Entries) : ∀ {f g : Fragment}, entries.foldlM add f = .ok g →
    g.children = putAll (entries.filterMap child?) f.children := by
  induction entries with
  | nil =>
    intro f g h
    cases h
    rfl
  | cons entry entries ih =>
    intro f g h
    rw [List.foldlM_cons] at h
    obtain ⟨f', hf, hg⟩ := bind_eq_ok.mp h
    rw [ih hg, children_add hf, List.filterMap_cons]
    cases child? entry <;> rfl

theorem children_ofEntries (h : ofEntries entries = .ok f) : f.children = putAll (entries.filterMap child?) [] := by
  unfold ofEntries at h
  cases hdirectives : Directives.ofEntries entries with
  | error issues => simp [hdirectives] at h
  | ok directives =>
    simp only [hdirectives] at h
    exact children_foldlM_add entries h

theorem eraseDups_of_nodup {names : List String} (h : names.Nodup) : names.eraseDups = names := by
  induction names with
  | nil => rfl
  | cons name names ih =>
    obtain ⟨hnew, hnames⟩ := List.nodup_cons.mp h
    have hkept : names.filter (fun n => !n == name) = names :=
      List.filter_eq_self.mpr fun n hn => by
        have hne : n ≠ name := fun heq => hnew (heq ▸ hn)
        simpa using hne
    rw [List.eraseDups_cons, hkept, ih hnames]

/-- A name keeps the place in which it was first put. -/
theorem names_putAll (more : List (String × Entries)) : ∀ (children : List (String × Entries)),
    (children.map (·.1)).Nodup → (putAll more children).map (·.1) = (children.map (·.1) ++ more.map (·.1)).eraseDups := by
  induction more with
  | nil =>
    intro children hn
    rw [List.map_nil, List.append_nil, eraseDups_of_nodup hn]
    rfl
  | cons child more ih =>
    intro children hn
    have hput := putChild_names child.1 child.2 children
    show (putAll more (putChild child.1 child.2 children)).map (·.1) = _
    by_cases hmem : child.1 ∈ children.map (·.1)
    · rw [if_pos hmem] at hput
      rw [ih _ (hput ▸ hn), hput, List.map_cons, List.eraseDups_append, List.eraseDups_append]
      have hdropped : (child.1 :: more.map (·.1)).removeAll (children.map (·.1)) =
          (more.map (·.1)).removeAll (children.map (·.1)) := by
        rw [List.cons_removeAll, if_neg (by simpa using hmem)]
      rw [hdropped]
    · rw [if_neg hmem] at hput
      have hn' : (children.map (·.1) ++ [child.1]).Nodup :=
        List.nodup_append.mpr ⟨hn, List.nodup_singleton _, fun a ha b hb heq =>
          hmem (List.mem_singleton.mp hb ▸ heq ▸ ha)⟩
      rw [ih _ (hput ▸ hn'), hput, List.append_assoc, List.singleton_append, List.map_cons]

theorem putChild_of_not_mem {name : String} {entries : Entries} {children : List (String × Entries)}
    (h : name ∉ children.map (·.1)) : putChild name entries children = children ++ [(name, entries)] := by
  induction children with
  | nil => rfl
  | cons child children ih =>
    rw [List.map_cons, List.mem_cons, not_or] at h
    rw [putChild, if_neg (Ne.symm h.1), ih h.2, List.cons_append]

theorem putAll_of_nodup (more : List (String × Entries)) : ∀ (children : List (String × Entries)),
    (children.map (·.1) ++ more.map (·.1)).Nodup → putAll more children = children ++ more := by
  induction more with
  | nil => exact fun children _ => (List.append_nil children).symm
  | cons child more ih =>
    intro children hn
    have hnew : child.1 ∉ children.map (·.1) := fun hmem =>
      (List.nodup_append.mp hn).2.2 _ hmem _ (List.mem_cons_self) rfl
    show putAll more (putChild child.1 child.2 children) = _
    rw [putChild_of_not_mem hnew, ih _ (by simpa using hn), List.append_assoc, List.singleton_append]

/-! ### All keys -/

/-- The names that the keys of a mapping give to children, in the order of the keys. -/
def childNames (entries : Entries) : List String := entries.filterMap fun entry => childName? entry.1

/-- The reserved keys that a mapping has. -/
def reservedIn (entries : Entries) : List String :=
  Directives.reservedKeys.filter fun name => (Value.field? name entries).isSome

/-- What becomes of the keys of a mapping. -/
structure Accounts (entries : Entries) (f : Fragment) : Prop where
  /-- The dated policies are what the dates hold, in the order of the dates. -/
  dated : List.Forall₂ HoldsDate f.settings.dated (entries.filter (isDate ·.1))
  /-- The children stand in the order in which their names come first. -/
  names : f.children.map (·.1) = (childNames entries).eraseDups
  /-- A child is what the last key for its name holds. -/
  last : ∀ child ∈ f.children, ∃ v, (valuesFor child.1 entries).getLast? = some v ∧ nodeEntries v = .ok child.2
  /-- Each key is a setting, a date or gives a name. -/
  total : (reservedIn entries).length + f.settings.dated.length + (childNames entries).length = entries.length
  /-- No key is lost just if no two keys give one name. -/
  kept_iff : (reservedIn entries).length + f.settings.dated.length + f.children.length = entries.length ↔
    (childNames entries).Nodup
  /-- Then the children are what the keys for names hold, in the order of the keys. -/
  kept : (childNames entries).Nodup → List.Forall₂ HoldsChild f.children (entries.filter fun entry => (childName? entry.1).isSome)

/-- What the accepted entries of a mapping give, kind by kind. -/
structure ByKind (entries : Entries) : Prop where
  dated : List.Forall₂ HoldsDate (entries.filterMap dated?) (entries.filter (isDate ·.1))
  children : List.Forall₂ HoldsChild (entries.filterMap child?) (entries.filter fun entry => (childName? entry.1).isSome)
  names : (entries.filterMap child?).map (·.1) = childNames entries
  total : (entries.filter (isReserved ·.1)).length + (entries.filterMap dated?).length + (childNames entries).length =
    entries.length

theorem ByKind.cons (hentry : KeyKind entry) (h : ByKind entries) : ByKind (entry :: entries) := by
  obtain ⟨hdated, hchildren, hnames, htotal⟩ := h
  unfold childNames at hnames htotal
  rcases hentry with ⟨hreserved, hdate, hname⟩ | ⟨dated, hreserved, hdate, hname, hholds⟩ | ⟨child, hreserved, hdate, hholds⟩
  · have hnotDated := dated?_eq_none hdate
    have hnoChild := child?_eq_none hname
    refine ⟨?_, ?_, ?_, ?_⟩
    · simpa [hdate, hnotDated] using hdated
    · simpa [hname, hnoChild] using hchildren
    · simpa [childNames, hname, hnoChild] using hnames
    · simp only [childNames, List.filter_cons, hreserved, ↓reduceIte, List.filterMap_cons, hnotDated, hname, List.length_cons]
      omega
  · have hgiven := hholds.dated?_eq
    have hnoChild := child?_eq_none hname
    refine ⟨?_, ?_, ?_, ?_⟩
    · simpa [hdate, hgiven] using ⟨hholds, hdated⟩
    · simpa [hname, hnoChild] using hchildren
    · simpa [childNames, hname, hnoChild] using hnames
    · simp only [childNames, List.filter_cons, hreserved, Bool.false_eq_true, ↓reduceIte, List.filterMap_cons, hgiven, hname,
        List.length_cons]
      omega
  · have hnotDated := dated?_eq_none hdate
    have hgiven := hholds.child?_eq
    have hname := hholds.1
    refine ⟨?_, ?_, ?_, ?_⟩
    · simpa [hdate, hnotDated] using hdated
    · simpa [hname, hgiven] using ⟨hholds, hchildren⟩
    · simpa [childNames, hname, hgiven] using hnames
    · simp only [childNames, List.filter_cons, hreserved, Bool.false_eq_true, ↓reduceIte, List.filterMap_cons, hnotDated, hname,
        List.length_cons]
      omega

theorem byKind_of_accepted : (∀ entry ∈ entries, Accepted entry) → ByKind entries := by
  induction entries with
  | nil => exact fun _ => ⟨.nil, .nil, rfl, rfl⟩
  | cons entry entries ih =>
    intro hall
    obtain ⟨hentry, hrest⟩ := List.forall_mem_cons.mp hall
    exact ByKind.cons hentry.keyKind (ih hrest)

theorem nodup_eraseDups (names : List String) : names.eraseDups.Nodup := by
  induction hlen : names.length using Nat.strongRecOn generalizing names with
  | ind n ih =>
    cases names with
    | nil => exact List.nodup_nil
    | cons name names =>
      have hshorter : (names.filter fun n => !n == name).length < n := by
        have hle := List.length_filter_le (fun n => !n == name) names
        rw [List.length_cons] at hlen
        omega
      rw [List.eraseDups_cons]
      refine List.nodup_cons.mpr ⟨?_, ih _ hshorter _ rfl⟩
      intro hmem
      have hkept := (List.mem_filter.mp (List.mem_eraseDups.mp hmem)).2
      simp at hkept

theorem length_reservedIn (hk : (entries.map (·.1)).Nodup) :
    (reservedIn entries).length = (entries.filter (isReserved ·.1)).length := by
  -- A mapping has a key once, so both lists of keys are without repetitions and hold the same keys.
  have hkeys : ((reservedIn entries).map Value.text).Perm ((entries.filter (isReserved ·.1)).map (·.1)) := by
    have hreserved : (reservedIn entries).Nodup := List.Nodup.filter _ (by decide)
    have htexts : ((reservedIn entries).map Value.text).Nodup :=
      hreserved.map fun _ _ heq => Value.text.inj heq
    have hentries : ((entries.filter (isReserved ·.1)).map (·.1)).Nodup :=
      hk.sublist (List.filter_sublist.map _)
    refine (List.perm_ext_iff_of_nodup htexts hentries).mpr fun key => ?_
    constructor
    · intro hkey
      obtain ⟨name, hname, rfl⟩ := List.mem_map.mp hkey
      obtain ⟨hreserved, hsome⟩ := List.mem_filter.mp hname
      obtain ⟨v, hv⟩ := Option.isSome_iff_exists.mp hsome
      have hmem := (Value.field?_eq_some hk).mp hv
      have hcontains : isReserved (.text name) = true := List.contains_iff_mem.mpr hreserved
      exact List.mem_map.mpr ⟨(.text name, v), List.mem_filter.mpr ⟨hmem, hcontains⟩, rfl⟩
    · intro hkey
      obtain ⟨⟨key, v⟩, hmem, rfl⟩ := List.mem_map.mp hkey
      obtain ⟨hmem, hreserved⟩ := List.mem_filter.mp hmem
      cases key with
      | text name =>
        have hfield := (Value.field?_eq_some hk).mpr hmem
        refine List.mem_map.mpr ⟨name, List.mem_filter.mpr ⟨List.contains_iff_mem.mp hreserved, ?_⟩, rfl⟩
        rw [hfield]
        rfl
      | _ => cases hreserved
  have hlength := hkeys.length_eq
  rwa [List.length_map, List.length_map] at hlength

theorem length_eraseDups_eq_iff {names : List String} : names.eraseDups.length = names.length ↔ names.Nodup := by
  constructor
  · intro hlength
    have hfirsts : names.eraseDups.Nodup := nodup_eraseDups names
    have hsub : names.eraseDups.Subperm names := hfirsts.subperm fun _ hn => List.mem_eraseDups.mp hn
    exact (hsub.perm_of_length_le (Nat.le_of_eq hlength.symm)).nodup_iff.mp hfirsts
  · intro hn
    rw [eraseDups_of_nodup hn]

/-- Every key of a mapping that is a node is accounted for. -/
theorem accounts_of_ofEntries (hk : (entries.map (·.1)).Nodup) (h : ofEntries entries = .ok f) : Accounts entries f := by
  obtain ⟨-, haccepted, hdated⟩ := says_iff.mpr ⟨f, h, rfl⟩
  have hkinds := byKind_of_accepted haccepted
  have hchildren := children_ofEntries h
  have hnames : f.children.map (·.1) = (childNames entries).eraseDups := by
    rw [hchildren, names_putAll _ [] List.nodup_nil, hkinds.names]
    rfl
  have hcount : f.children.length = (childNames entries).eraseDups.length := by
    rw [← hnames, List.length_map]
  have htotal : (reservedIn entries).length + f.settings.dated.length + (childNames entries).length = entries.length := by
    rw [length_reservedIn hk, hdated]
    exact hkinds.total
  refine ⟨?_, hnames, ?_, htotal, ?_, ?_⟩
  · rw [hdated]
    exact hkinds.dated
  · intro child hc
    have hlookup := lookup_ofEntries h child.1
    rw [Entry.lookup_of_mem (named_ofEntries h).distinct hc] at hlookup
    cases hlast : (valuesFor child.1 entries).getLast? with
    | none => simp [hlast] at hlookup
    | some v =>
      simp only [hlast] at hlookup
      obtain ⟨below, hnode, hbelow⟩ := hlookup
      exact ⟨v, rfl, Option.some.inj hbelow ▸ hnode⟩
  · rw [← length_eraseDups_eq_iff]
    omega
  · intro hn
    have hall := putAll_of_nodup (entries.filterMap child?) [] (by simpa [hkinds.names] using hn)
    rw [hchildren, hall]
    exact hkinds.children

theorem exists_ofEntries (h : (ofEntries entries).toOption.isSome = true) : ∃ f, ofEntries entries = .ok f := by
  obtain ⟨f, hf⟩ := Option.isSome_iff_exists.mp h
  exact ⟨f, toOption_eq_some.mp hf⟩

def sheet : Entries :=
  [(.text "mode", .text "0755"), (.text "notes", .null), (.time (.day ⟨742000, by decide⟩), .text "0700"), (.int 7, .map [])]

theorem accounts_of_ofEntries_sheet : ∃ f, (sheet.map (·.1)).Nodup ∧ ofEntries sheet = .ok f ∧ Accounts sheet f := by
  have hk : (sheet.map (·.1)).Nodup := by simp [sheet]
  obtain ⟨f, hf⟩ : ∃ f, ofEntries sheet = .ok f := exists_ofEntries (by decide +kernel)
  exact ⟨f, hk, hf, accounts_of_ofEntries hk hf⟩

/-- A number and a text that give one name. -/
def renumbered : Entries := [(.int 5, .map [(.text "mode", .list [])]), (.text "5", .map [(.text "notes", .null)])]

/-- Of two keys one child is kept; what the other key holds is lost, and that it is no node is not seen. -/
theorem key_lost : ∃ f, (renumbered.map (·.1)).Nodup ∧ ofEntries renumbered = .ok f ∧
    (reservedIn renumbered).length + f.settings.dated.length + f.children.length < renumbered.length ∧
    (∀ child ∈ f.children, ¬HoldsChild child (.int 5, .map [(.text "mode", .list [])])) ∧
    (∀ g, ofEntries [(.text "mode", .list [])] ≠ .ok g) := by
  have hk : (renumbered.map (·.1)).Nodup := by simp [renumbered]
  obtain ⟨f, hf⟩ : ∃ f, ofEntries renumbered = .ok f := exists_ofEntries (by decide +kernel)
  have hdated : f.settings.dated = [] := (says_iff.mpr ⟨f, hf, rfl⟩).dated
  have hchildren : f.children = [("5", [(.text "notes", .null)])] := by
    have hnumber : HoldsChild ("5", [(.text "mode", .list [])]) (.int 5, .map [(.text "mode", .list [])]) :=
      ⟨by decide +kernel, rfl⟩
    have htext : HoldsChild ("5", [(.text "notes", .null)]) (.text "5", .map [(.text "notes", .null)]) :=
      ⟨by decide +kernel, rfl⟩
    rw [children_ofEntries hf]
    simp [renumbered, hnumber.child?_eq, htext.child?_eq, putAll, putChild]
  refine ⟨f, hk, hf, ?_, ?_, ?_⟩
  · rw [hdated, hchildren]
    decide +kernel
  · intro child hc
    rw [hchildren] at hc
    obtain rfl := List.mem_singleton.mp hc
    rintro ⟨-, hheld⟩
    simp [nodeEntries] at hheld
  · intro g hg
    have hrefused : (ofEntries [(.text "mode", .list [])]).toOption.isSome = false := by decide +kernel
    rw [hg] at hrefused
    cases hrefused

end Fragment
end Curfew
