import Curfew.Proofs.Host.Mirrored
import Curfew.Proofs.Tree.Branches
import Curfew.Proofs.Tree.Twins

/-! Roots that are links. Behind a link to a directory the config declares the nodes that it declares behind the directory,
and a run brings them to the same; but a link is not gone down into, so nothing else in the directory is found. -/

namespace Curfew

namespace Value
theorem at?_append_singleton (name : String) : ∀ (names : List String) (config : Value),
    config.at? (names ++ [name]) = (config.at? names).bind (child? name)
  | [], config => by simp [at?]
  | next :: names, config => by
    rw [List.cons_append, at?, at?]
    cases config.child? next with
    | none => rfl
    | some v => exact at?_append_singleton name names v

/-- What a config holds down names is a node with settings. -/
def SaysAt (config : Value) (names : List String) (settings : Settings) : Prop :=
  ∃ v, config.at? names = some v ∧ v.Says settings

/-- A config has a pattern down names, to exclude or to include. -/
def HasPattern (config : Value) (names : List String) (pattern : String) : Prop :=
  ∃ settings, config.SaysAt names settings ∧ pattern ∈ settings.directives.excludes ++ settings.directives.includes

end Value

/-! ### Nodes behind two paths -/

/-- Two nodes stand at the same names behind two paths, and but for the paths the same holds at both. -/
structure Standing.Mirrors (p q : Path) (names : List String) (s s' : Standing) : Prop where
  paths : s.path = p.below names ∧ s'.path = q.below names
  group : s.group = s'.group
  policies : s.policies = s'.policies
  excludes : Host.SameBehind p q s.excludes s'.excludes
  includes : Host.SameBehind p q s.includes s'.includes

namespace Standing.Mirrors
variable {h : Host} {p q : Path} {names : List String} {s s' : Standing}

theorem child (hm : Mirrors p q names s s') (name : String) :
    Mirrors p q (names ++ [name]) (s.moved (s.path.child name)) (s'.moved (s'.path.child name)) :=
  { hm with paths := by simp [Standing.moved, hm.paths, Host.below_child] }

theorem twin (hm : Mirrors p q names s s') (hs : h.SamePlace p q) (hl : h.SameLimits p q names) (hne : names ≠ []) :
    Twin h s s' where
  agree follow := by
    rw [hm.paths.1, hm.paths.2]
    exact hs.agree hl (Or.inl hne)
  group := hm.group
  policies := hm.policies
  excluded := by
    have hexcludes := hm.excludes names
    have hincludes := hm.includes names
    simp only [isExcluded, List.contains_eq_mem, hm.paths.1, hm.paths.2, hexcludes, hincludes]

end Standing.Mirrors

namespace Tree
variable {h : Host} {p q : Path} {names : List String} {s s' : Standing}

mutual

/-- What is found behind two paths to one place are twins. -/
theorem walk_ofEntry_twin (hs : h.SamePlace p q) : ∀ {e : Entry} {names : List String} {s s' : Standing},
    Standing.Mirrors p q names s s' → names ≠ [] → h.SameLimits p q names →
    (∀ below ∈ e.descendants, h.SameLimits p q (names ++ below.1)) →
    List.Forall₂ (Standing.Twin h) (ofEntry s e).walk (ofEntry s' e).walk
  | .directory _ children, names, s, s', hm, hne, hl, hbelow => by
    rw [Entry.descendants] at hbelow
    rw [ofEntry, ofEntry, walk, walk, walkAll, List.nil_append, List.nil_append]
    exact List.rel_append (walkAll_ofChildren_twin hs hm hbelow) (.cons (hm.twin hs hl hne) .nil)
  | .file _ _, _, _, _, hm, hne, hl, _ => .cons (hm.twin hs hl hne) .nil
  | .link _ _, _, _, _, hm, hne, hl, _ => .cons (hm.twin hs hl hne) .nil

theorem walkAll_ofChildren_twin (hs : h.SamePlace p q) : ∀ {children : List (String × Entry)} {names : List String}
    {s s' : Standing}, Standing.Mirrors p q names s s' →
    (∀ below ∈ Entry.allDescendants children, h.SameLimits p q (names ++ below.1)) →
    List.Forall₂ (Standing.Twin h) (walkAll (ofChildren s children)) (walkAll (ofChildren s' children))
  | [], _, _, _, _, _ => by
    rw [ofChildren, ofChildren, walkAll]
    exact .nil
  | (name, e) :: rest, names, s, s', hm, hbelow => by
    rw [Entry.allDescendants, List.cons_append, List.forall_mem_cons, List.forall_mem_append, List.forall_mem_map] at hbelow
    obtain ⟨hhere, hentry, hrest⟩ := hbelow
    rw [ofChildren, ofChildren, walkAll, walkAll]
    refine List.rel_append (walk_ofEntry_twin hs (hm.child name) (by simp) hhere fun below hmem => ?_)
      (walkAll_ofChildren_twin hs hm hrest)
    rw [List.append_assoc]
    exact hentry below hmem

end

/-! ### Building behind two paths -/

theorem expandAll_beside {path path' : Path} {patterns : List String}
    (hall : ∀ pattern ∈ patterns,
      Beside DiskFault.Alike (Host.SameBehind p q) (h.glob path pattern).outcome (h.glob path' pattern).outcome) :
    ∀ {found found' : List Path}, Host.SameBehind p q found found' →
      Beside (fun _ _ => True) (Host.SameBehind p q) (expandAll h path patterns found).outcome
        (expandAll h path' patterns found').outcome := by
  induction patterns with
  | nil => exact fun hfound => .ok hfound
  | cons pattern patterns ih =>
    intro found found' hfound
    obtain ⟨hfirst, hrest⟩ := List.forall_mem_cons.mp hall
    rw [expandAll, expandAll]
    simp only [Told.outcome_bind, Told.mapFault]
    refine Beside.bind (hfirst.mapError TreeFault.disk TreeFault.disk) fun more more' hmore => ih hrest fun names => ?_
    rw [List.mem_append, List.mem_append, hfound names, hmore names]

end Tree

namespace Host

/-- Names that are looked for behind a root: those of the nodes of a config, those that the parts of its patterns show from the
first on, and those of what is below either. -/
inductive Sought (h : Host) (base : Path) (config : Value) : List String → Prop
  | declared {names : List String} {settings : Settings} : config.SaysAt names settings → Sought h base config names
  | found {names inner : List String} {settings : Settings} : config.SaysAt names settings → names ≠ [] →
    h.Contains (base.below names) inner → Sought h base config (names ++ inner)
  | shown {names front shown : List String} {pattern : String} : config.HasPattern names pattern →
    front <+: names ++ (Path.ofText pattern).names → h.Shown base front shown → Sought h base config shown
  | under {names inner : List String} {pattern : String} : config.HasPattern names pattern →
    h.Contains (base.below (names ++ (Path.ofText pattern).names)) inner →
    Sought h base config (names ++ (Path.ofText pattern).names ++ inner)

/-- Two paths to one directory behind which a config is taken alike: no pattern leads above them, and what is looked for comes
to the limits of the system behind both or behind neither. -/
structure AliasRoots (h : Host) (p q : Path) (config : Value) : Prop extends Aliases h p q where
  wellFormed : h.disk.WellFormed
  stays : ∀ names pattern, config.HasPattern names pattern →
    (Path.ofText pattern).root = .working ∧ Path.stays 0 (names ++ (Path.ofText pattern).names) = true
  limits : ∀ names, h.Sought q config names → h.SameLimits p q names

end Host

namespace Tree
variable {h : Host} {p q : Path} {config : Value} {names above : List String} {parent parent' : Standing} {settings : Settings}

theorem derive_beside (hr : h.AliasRoots p q config) (hsaid : config.SaysAt names settings)
    (hparent : Standing.Mirrors p q above parent parent') :
    Beside (fun _ _ => True) (Standing.Mirrors p q names) (derive h (p.below names) settings parent).outcome
      (derive h (q.below names) settings parent').outcome := by
  have hglob : ∀ pattern ∈ settings.directives.excludes ++ settings.directives.includes, Beside DiskFault.Alike
      (Host.SameBehind p q) (h.glob (p.below names) pattern).outcome (h.glob (q.below names) pattern).outcome := by
    intro pattern hmem
    have hpattern : config.HasPattern names pattern := ⟨settings, hsaid, hmem⟩
    obtain ⟨hrelative, hstays⟩ := hr.stays names pattern hpattern
    exact Host.glob_beside hr.toAliases hr.wellFormed hrelative rfl hstays
      (fun front shown hfront hshown => hr.limits _ (.shown hpattern hfront hshown))
      fun inner hinner => hr.limits _ (.under hpattern hinner)
  unfold derive
  simp only [Told.outcome_bind]
  refine (expandAll_beside (fun pattern hmem => hglob pattern (List.mem_append_left _ hmem)) hparent.excludes).bind
    fun excludes excludes' hexcludes => ?_
  refine (expandAll_beside (fun pattern hmem => hglob pattern (List.mem_append_right _ hmem)) hparent.includes).bind
    fun includes includes' hincludes => ?_
  exact .ok { paths := ⟨rfl, rfl⟩, group := by rw [hparent.group], policies := by rw [hparent.policies],
              excludes := hexcludes, includes := hincludes }

/-- What is not declared is the same behind both paths. -/
theorem undeclared_beside (hr : h.AliasRoots p q config) (hsaid : config.SaysAt names settings) (hne : names ≠ [])
    (declared : List String) : Beside DiskFault.Alike
      (fun found found' => found = found' ∧ ∀ below ∈ Entry.allDescendants found, h.SameLimits p q (names ++ below.1))
      (undeclared h (p.below names) declared) (undeclared h (q.below names) declared) := by
  have hlimit := hr.limits names (.declared hsaid)
  have hagree : ∀ follow, h.Agree follow (p.below names) (q.below names) := fun follow => hr.agree hlimit (Or.inl hne)
  unfold undeclared
  refine (Host.Agree.isDirectory hagree).bind ?_
  rintro b _ rfl
  cases b with
  | false => exact .ok ⟨rfl, by simp [Entry.allDescendants]⟩
  | true =>
    have hchildren : Beside DiskFault.Alike (fun x y => x = y ∧ h.children (q.below names) = .ok y) (h.children (p.below names))
        (h.children (q.below names)) := by
      rcases (hagree true).children.inv with ⟨children, _, hc, hc', rfl⟩ | ⟨_, _, hc, hc', hf⟩ <;> rw [hc, hc']
      · exact .ok ⟨rfl, rfl⟩
      · exact .error hf
    refine (Host.asUnavailable_beside hchildren).bind ?_
    rintro children _ ⟨rfl, hc⟩
    have hbelow : ∀ below ∈ Entry.allDescendants (children.filter fun child => !declared.contains child.1),
        h.SameLimits p q (names ++ below.1) := fun below hmem => by
      obtain ⟨child, hchild, heq⟩ := Entry.mem_allDescendants.mp hmem
      refine hr.limits _ (.found hsaid hne ⟨children, below.2, hc, ?_⟩)
      exact Entry.mem_allDescendants.mpr ⟨child, (List.mem_filter.mp hchild).1, heq⟩
    refine Beside.bind (Beside.forM (List.forall₂_same.mpr fun below hmem => ?_)) fun _ _ _ => .ok ⟨rfl, hbelow⟩
    rw [Path.below_below, Path.below_below]
    have hentry : ∀ follow, h.Agree follow (p.below (names ++ below.1)) (q.below (names ++ below.1)) := fun follow =>
      hr.agree (hbelow below hmem) (Or.inl (by simp [hne]))
    exact (Host.Agree.isDirectory hentry).bind fun _ _ _ => .ok rfl

/-- The nodes of a config below the root are twins if those of its children are. -/
theorem ofOutline_node_beside (hr : h.AliasRoots p q config) {source : Entries} {children : List (String × Outline)}
    (hsaid : config.SaysAt names settings) (hne : names ≠ []) (hparent : Standing.Mirrors p q above parent parent')
    (hchildren : ∀ s s', Standing.Mirrors p q names s s' → Beside (fun _ _ => True)
      (fun ts ts' => List.Forall₂ (Standing.Twin h) (walkAll ts) (walkAll ts')) (ofDeclared h s children).outcome
      (ofDeclared h s' children).outcome) :
    Beside (fun _ _ => True) (fun t t' => List.Forall₂ (Standing.Twin h) t.walk t'.walk)
      (ofOutline h (p.below names) parent (.node source settings children)).outcome
      (ofOutline h (q.below names) parent' (.node source settings children)).outcome := by
  rw [ofOutline, ofOutline]
  simp only [Told.outcome_bind, Told.outcome_ofExcept, Told.mapFault]
  refine (derive_beside hr hsaid hparent).bind fun s s' hm => ?_
  refine (hchildren s s' hm).bind fun ts ts' hdeclared => ?_
  have hundeclared := undeclared_beside hr hsaid hne (children.map (·.1))
  refine Beside.bind (hundeclared.mapError TreeFault.disk TreeFault.disk) ?_
  rintro found _ ⟨rfl, hbelow⟩
  have hfound := walkAll_ofChildren_twin hr.toSamePlace hm hbelow
  have hhere : Standing.Twin h s s' := hm.twin hr.toSamePlace (hr.limits names (.declared hsaid)) hne
  exact .ok (List.rel_append (List.rel_append hdeclared hfound) (.cons hhere .nil))

mutual

/-- Below the root a config gives twins behind both paths. -/
theorem ofOutline_beside (hr : h.AliasRoots p q config) : ∀ {o : Outline} {v : Value} {names above : List String}
    {parent parent' : Standing}, Outline.ofValue v = o → config.at? names = some v → names ≠ [] →
    Standing.Mirrors p q above parent parent' →
    Beside (fun _ _ => True) (fun t t' => List.Forall₂ (Standing.Twin h) t.walk t'.walk)
      (ofOutline h (p.below names) parent o).outcome (ofOutline h (q.below names) parent' o).outcome
  | .refused _, _, _, _, _, _, _, _, _, _ => by
    rw [ofOutline, ofOutline]
    exact .error trivial
  | .node source settings children, v, names, above, parent, parent', hv, hat, hne, hparent => by
    have hsaid : config.SaysAt names settings := ⟨v, hat, Outline.says_iff.mpr ⟨source, children, hv⟩⟩
    have hchildren : ∀ child ∈ children, ∃ w, v.child? child.1 = some w ∧ Outline.ofValue w = child.2 := fun child hc =>
      (mem_children hv).mp hc
    exact ofOutline_node_beside hr hsaid hne hparent fun s s' hm => ofDeclared_beside hr hchildren hat hm

theorem ofDeclared_beside (hr : h.AliasRoots p q config) : ∀ {children : List (String × Outline)} {v : Value}
    {names : List String} {s s' : Standing}, (∀ child ∈ children, ∃ w, v.child? child.1 = some w ∧ Outline.ofValue w = child.2) →
    config.at? names = some v → Standing.Mirrors p q names s s' →
    Beside (fun _ _ => True) (fun ts ts' => List.Forall₂ (Standing.Twin h) (walkAll ts) (walkAll ts'))
      (ofDeclared h s children).outcome (ofDeclared h s' children).outcome
  | [], _, _, _, _, _, _, _ => by
    rw [ofDeclared, ofDeclared]
    exact .ok .nil
  | (name, child) :: rest, v, names, s, s', hchildren, hat, hm => by
    obtain ⟨⟨w, hw, hchild⟩, hrest⟩ := List.forall_mem_cons.mp hchildren
    have hat' : config.at? (names ++ [name]) = some w := by
      rw [Value.at?_append_singleton, hat]
      exact hw
    rw [ofDeclared, ofDeclared]
    simp only [Told.outcome_bind, hm.paths.1, hm.paths.2, Host.below_child]
    refine (ofOutline_beside hr hchild hat' (by simp) hm).bind fun t t' ht => ?_
    exact (ofDeclared_beside hr hrest hat hm).bind fun ts ts' hts => .ok (List.rel_append ht hts)

end

/-! ### Roots -/

/-- The tree of a config bound to a root, less what is only found in the directory of the root. -/
def buildDeclared (h : Host) (config : Value) (root : Path) : Told TreeFault Tree :=
  let path := h.absolute root
  match Outline.ofValue config with
  | .refused fault => Told.fail (.config ⟨path.text, fault⟩)
  | .node source settings children => do
    let s ← derive h path settings (.outermost path)
    let declared ← ofDeclared h s children
    return .node s source declared []

/-- Whether a run over a tree returns and the host that it leaves, if the tree can be built. -/
def ending (h : Host) (built : Told TreeFault Tree) (clock : Clock) (isDryRun : Bool) : Option (Bool × Host) :=
  built.outcome.toOption.map fun t => ((t.apply h clock isDryRun).fault.isNone, (t.apply h clock isDryRun).run.host)

theorem ending_congr {built built' : Told TreeFault Tree} (ho : built.outcome = built'.outcome) (clock : Clock)
    (isDryRun : Bool) : ending h built clock isDryRun = ending h built' clock isDryRun := by
  unfold ending
  rw [ho]

/-- A link is not gone down into, so nothing is found in it. -/
theorem undeclared_of_isLink {b : Bool} (hleads : h.leadsToDirectory p = .ok b) (hlink : h.isLink p = .ok true)
    (declared : List String) : undeclared h p declared = .ok [] := by
  unfold undeclared Host.isDirectory
  rw [hleads, hlink]
  cases b <;> rfl

/-- Nothing is found where all that is listed is declared. -/
theorem undeclared_of_listed {listed declared : List String} (hdirectory : h.isDirectory p = .ok true)
    (hlist : h.list p = .ok listed) (hall : ∀ name ∈ listed, name ∈ declared) : undeclared h p declared = .ok [] := by
  obtain ⟨entries, hentries, rfl⟩ := Host.list_eq_ok.mp hlist
  refine (undeclared_eq_ok hdirectory hentries).mpr ⟨(List.filter_eq_nil_iff.mpr fun child hc => ?_).symm, rfl⟩
  simpa using hall child.1 (List.mem_map_of_mem hc)

/-- Where nothing is found in the directory of the root, the tree is what is declared. -/
theorem outcome_build_of_none {root : Path} (hnone : ∀ source settings children,
    Outline.ofValue config = .node source settings children → undeclared h (h.absolute root) (children.map (·.1)) = .ok []) :
    (build h config root).outcome = (buildDeclared h config root).outcome := by
  unfold build buildDeclared
  cases ho : Outline.ofValue config with
  | refused fault => rw [ofOutline]
  | node source settings children =>
    rw [ofOutline]
    simp only [Told.outcome_bind, Told.outcome_ofExcept, Told.mapFault, hnone source settings children ho, mapError_ok, ok_bind,
      ofChildren]

theorem buildDeclared_beside {link target : Path} (hr : h.AliasRoots (h.absolute link) (h.absolute target) config) :
    Beside (fun _ _ => True) (fun t t' => List.Forall₂ (Standing.Twin h) t.managed t'.managed)
      (buildDeclared h config link).outcome (buildDeclared h config target).outcome := by
  unfold buildDeclared
  cases ho : Outline.ofValue config with
  | refused fault => exact .error trivial
  | node source settings children =>
    have hsaid : config.SaysAt [] settings := ⟨config, rfl, Outline.says_iff.mpr ⟨source, children, ho⟩⟩
    have hparent : Standing.Mirrors (h.absolute link) (h.absolute target) [] (.outermost (h.absolute link))
        (.outermost (h.absolute target)) := by
      constructor <;> simp [Standing.outermost, Host.SameBehind]
    have hderived := derive_beside hr hsaid hparent
    rw [Path.below_nil, Path.below_nil] at hderived
    simp only [Told.outcome_bind]
    refine hderived.bind fun s s' hm => ?_
    refine (ofDeclared_beside hr (fun child hc => (mem_children ho).mp hc) rfl hm).bind fun ts ts' hdeclared => ?_
    exact .ok (List.rel_append hdeclared .nil)

theorem ending_eq_of_beside {built built' : Told TreeFault Tree}
    (hb : Beside (fun _ _ => True) (fun t t' => List.Forall₂ (Standing.Twin h) t.managed t'.managed) built.outcome
      built'.outcome)
    (clock : Clock) (isDryRun : Bool) : ending h built clock isDryRun = ending h built' clock isDryRun := by
  unfold ending
  rcases hb.inv with ⟨t, t', ht, ht', hall⟩ | ⟨_, _, ht, ht', -⟩ <;> rw [ht, ht']
  · obtain ⟨hfault, hhost⟩ := apply_twin hall clock isDryRun
    simp only [Except.toOption, Option.map_some, hfault, hhost]
  · rfl

/-- A run over a config bound to a link that leads to a directory ends as one over what the config declares in the directory:
it returns if that does, and leaves the same host. Only what else is in the directory is not found behind the link, so if
the config declares all that is there, the run ends as one over the config bound to the directory. -/
theorem linked_root {link target : Path} (hd : h.disk.WellFormed) (hlink : h.isLink (h.absolute link) = .ok true)
    (hdirectory : h.isDirectory (h.absolute target) = .ok true)
    (hplace : ∃ l, h.locate (h.absolute link) true = .ok l ∧ h.locate (h.absolute target) true = .ok l)
    (hplain : ∀ n ∈ (h.absolute link).names ++ (h.absolute target).names, Wildcard.isPattern n = false)
    (hstays : ∀ names pattern, config.HasPattern names pattern →
      (Path.ofText pattern).root = .working ∧ Path.stays 0 (names ++ (Path.ofText pattern).names) = true)
    (hlimits : ∀ names, h.Sought (h.absolute target) config names → h.SameLimits (h.absolute link) (h.absolute target) names)
    (clock : Clock) (isDryRun : Bool) :
    ending h (build h config link) clock isDryRun = ending h (buildDeclared h config target) clock isDryRun ∧
    ((∀ listed, h.list (h.absolute target) = .ok listed → ∀ name ∈ listed, config.child? name ≠ none) →
      ending h (build h config link) clock isDryRun = ending h (build h config target) clock isDryRun) := by
  have hr : h.AliasRoots (h.absolute link) (h.absolute target) config :=
    { rooted := ⟨h.absolute_root link, h.absolute_root target⟩
      place := hplace
      directory := Host.children_of_isDirectory hdirectory
      dots := by simp [Host.absolute, Path.climbs_absolute]
      plain := hplain
      wellFormed := hd
      stays := hstays
      limits := hlimits }
  have hbuilt : (build h config link).outcome = (buildDeclared h config link).outcome := by
    obtain ⟨l, a, entries, hl, -, he⟩ := Host.directory_of_isDirectory hdirectory
    obtain ⟨k, hk, hk'⟩ := hplace
    obtain rfl : k = l := Except.ok.inj (hk'.symm.trans hl)
    have hleads : h.leadsToDirectory (h.absolute link) = .ok true := by
      unfold Host.leadsToDirectory Host.test
      rw [Host.look_eq_ok.mpr ⟨hk, he⟩]
      rfl
    exact outcome_build_of_none fun _ _ _ _ => undeclared_of_isLink hleads hlink _
  have hending : ending h (build h config link) clock isDryRun = ending h (buildDeclared h config target) clock isDryRun :=
    (ending_congr hbuilt clock isDryRun).trans (ending_eq_of_beside (buildDeclared_beside hr) clock isDryRun)
  refine ⟨hending, fun hall => hending.trans ?_⟩
  have hbuilt' : (build h config target).outcome = (buildDeclared h config target).outcome := by
    obtain ⟨entries, hentries⟩ := Host.children_of_isDirectory hdirectory
    have hlist : h.list (h.absolute target) = .ok (entries.map (·.1)) := Host.list_eq_ok.mpr ⟨entries, hentries, rfl⟩
    refine outcome_build_of_none fun _ _ children ho => undeclared_of_listed hdirectory hlist fun name hname => ?_
    exact not_not.mp (mt (child?_eq_none ho).mpr (hall _ hlist name hname))
  exact (ending_congr hbuilt' clock isDryRun).symm

/-! ### A course and a link to it -/

namespace Linked

/-- A course with a file, and a link to the course. -/
def host : Host := Trial.host [("notes", Trial.file 0o644)] [("latest", .link 0 "course")]

def link : Path := { root := .top, names := ["latest"] }

/-- What the config says of the file. -/
def notes : Value := .map [(.text "mode", .text "0600")]

/-- A config that declares the file. -/
def declaring : Value := .map [(.text "notes", notes)]

/-- Whether a run over a config bound to a root returns, and the mode that it leaves the file. -/
def seen (config : Value) (root : Path) (clock : Clock) : Option (Bool × Option Mode) :=
  (ending host (build host config root) clock false).map fun e => (e.1, (e.2.disk.infoAt ["course", "notes"]).map (·.mode))

theorem saysAt {names : List String} {settings : Settings} (hsaid : declaring.SaysAt names settings) :
    (names = [] ∨ names = ["notes"]) ∧ settings.directives.excludes ++ settings.directives.includes = [] := by
  obtain ⟨v, hat, entries, hentries, hnode⟩ := hsaid
  have hplain : ∀ given, (Directives.ofEntries given).toOption.map (fun d => d.excludes ++ d.includes) = some [] →
      entries = given → settings.directives.excludes ++ settings.directives.includes = [] := by
    rintro _ hgiven rfl
    rw [hnode.directives] at hgiven
    exact Option.some.inj hgiven
  cases names with
  | nil =>
    cases hat
    exact ⟨Or.inl rfl, hplain [(.text "notes", notes)] (by decide +kernel) (Except.ok.inj hentries).symm⟩
  | cons name names =>
    obtain ⟨u, hu, hat⟩ := Option.bind_eq_some_iff.mp hat
    obtain ⟨rfl, rfl⟩ : name = "notes" ∧ u = notes := by
      obtain ⟨key, entries, hmap, hmem, hname⟩ := Value.mem_of_child? hu
      obtain rfl := Value.map.inj hmap
      obtain ⟨rfl, rfl⟩ := Prod.mk.inj (List.mem_singleton.mp hmem)
      exact ⟨(Option.some.inj hname).symm, rfl⟩
    cases names with
    | nil =>
      cases hat
      exact ⟨Or.inr rfl, hplain [(.text "mode", .text "0600")] (by decide +kernel) (Except.ok.inj hentries).symm⟩
    | cons name names =>
      simp [notes, Value.at?, Value.child?, Fragment.valuesFor, Fragment.childName?, Directives.reservedKeys] at hat

theorem not_hasPattern {names : List String} {pattern : String} : ¬declaring.HasPattern names pattern := by
  rintro ⟨settings, hsaid, hmem⟩
  simp [(saysAt hsaid).2] at hmem

/-- Nothing but the directory and the file is looked for. -/
theorem sought {names : List String} (hs : host.Sought (host.absolute Trial.root) declaring names) :
    names = [] ∨ names = ["notes"] := by
  cases hs with
  | declared hsaid => exact (saysAt hsaid).1
  | found hsaid hne hcontains =>
    obtain rfl := (saysAt hsaid).1.resolve_left hne
    obtain ⟨children, e, hchildren, -⟩ := hcontains
    have hnone : (host.children ((host.absolute Trial.root).below ["notes"])).toOption = none := by decide
    simp [hchildren, Except.toOption] at hnone
  | shown hpattern => exact absurd hpattern not_hasPattern
  | under hpattern => exact absurd hpattern not_hasPattern

theorem sameLimits {names : List String} (hs : host.Sought (host.absolute Trial.root) declaring names) :
    host.SameLimits (host.absolute link) (host.absolute Trial.root) names := by
  have hall : ∀ names ∈ [[], ["notes"]], ∀ base ∈ [host.absolute link, host.absolute Trial.root], ∀ follow,
      (host.locate (base.below names) follow).toOption.isSome = true := by decide +kernel
  have hmem : names ∈ [[], ["notes"]] := by simpa using sought hs
  have located : ∀ base ∈ [host.absolute link, host.absolute Trial.root], ∀ follow,
      ∃ l, host.locate (base.below names) follow = .ok l := fun base hbase follow => by
    obtain ⟨l, hl⟩ := Option.isSome_iff_exists.mp (hall names hmem base hbase follow)
    exact ⟨l, toOption_eq_some.mp hl⟩
  exact Host.sameLimits_of_locate (located _ (by simp)) (located _ (by simp))

/-- A config that excludes the file from a deadline by a pattern that climbs above the root. -/
def climbing : Value :=
  .map [(.text "mode", .text "0640"), (.time (.day ⟨719163, by decide⟩), .text "0600"),
    (.text "exclude", .list [.text "../course/notes"]), (.text "notes", .null)]

/-- A clock at the deadline. -/
def clock : Clock := { instant := .utc (.midnight ⟨719163, by decide⟩), utcOffset := 0 }

end Linked

theorem linked_root_course :
    ending Linked.host (build Linked.host Linked.declaring Linked.link) Trial.clock false =
      ending Linked.host (build Linked.host Linked.declaring Trial.root) Trial.clock false ∧
    Linked.seen Linked.declaring Linked.link Trial.clock = some (true, some 0o600) := by
  have hplace : ∃ l, Linked.host.locate (Linked.host.absolute Linked.link) true = .ok l ∧
      Linked.host.locate (Linked.host.absolute Trial.root) true = .ok l :=
    ⟨["course"], toOption_eq_some.mp (by decide +kernel), toOption_eq_some.mp (by decide +kernel)⟩
  have hlist : Linked.host.list (Linked.host.absolute Trial.root) = .ok ["notes"] :=
    toOption_eq_some.mp (by decide +kernel)
  refine ⟨?_, by decide +kernel⟩
  refine (linked_root (by decide) (toOption_eq_some.mp (by decide +kernel)) (toOption_eq_some.mp (by decide +kernel)) hplace
    (by decide +kernel) (fun names pattern hpattern => absurd hpattern Linked.not_hasPattern) (fun _ => Linked.sameLimits)
    Trial.clock false).2 ?_
  intro listed hlisted name hname
  obtain rfl := Except.ok.inj (hlist.symm.trans hlisted)
  obtain rfl := List.mem_singleton.mp hname
  exact Option.some_ne_none Linked.notes

/-- A file that is not declared keeps its mode behind a link, and a pattern that climbs above the root names the file by another
path than the link does. -/
theorem linked_root_differs : Linked.host.isLink (Linked.host.absolute Linked.link) = .ok true ∧
    Linked.host.isDirectory (Linked.host.absolute Trial.root) = .ok true ∧
    Linked.host.locate (Linked.host.absolute Linked.link) true = Linked.host.locate (Linked.host.absolute Trial.root) true ∧
    Linked.seen Linked.notes Linked.link Trial.clock = some (true, some 0o644) ∧
    Linked.seen Linked.notes Trial.root Trial.clock = some (true, some 0o600) ∧
    Linked.seen Linked.climbing Linked.link Linked.clock = some (true, some 0o600) ∧
    Linked.seen Linked.climbing Trial.root Linked.clock = some (true, some 0o640) := by
  decide +kernel

end Tree
end Curfew
