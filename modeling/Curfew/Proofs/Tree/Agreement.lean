import Curfew.Proofs.Config.Refusal
import Curfew.Proofs.Tree.Build

/-! Checking a config and building a tree of it. Both go through the nodes of the config in the same order, so unless the
disk fails they stop at the same node with the same fault, or the tree has a declared node for each node counted. -/

namespace Curfew

/-! ### Texts of paths below a path -/

theorem Outline.slash_intercalate (names : List String) : ∀ name : String,
    "/" ++ String.intercalate "/" (name :: names) = spelled (name :: names) := by
  induction names with
  | nil =>
    intro name
    simp [spelled]
  | cons second names ih =>
    intro name
    rw [spelled_cons, ← ih, String.intercalate_cons_of_ne_nil (List.cons_ne_nil _ _)]
    simp only [String.append_assoc]

/-- The text of a path below another is the names behind the text of the other, but for the slash of the top. -/
theorem Path.text_below_spelled {p : Path} (h : p.root ≠ .working) (names : List String) :
    ∃ above, (above = p.text ∨ above ++ "/" = p.text) ∧ (p.below names).text = above ++ Outline.spelled names := by
  cases names with
  | nil => exact ⟨p.text, Or.inl rfl, by simp [Path.below, Outline.spelled]⟩
  | cons name names =>
    simp only [Path.text, Path.below, h, decide_false, Bool.false_and, Bool.false_eq_true, ↓reduceIte]
    rw [← Outline.slash_intercalate]
    cases hp : p.names with
    | nil =>
      have hroot : ∃ above, above ++ "/" = String.ofList (Root.chars p.root) := by
        cases hr : p.root with
        | working => exact absurd hr h
        | top => exact ⟨"", rfl⟩
        | doubled => exact ⟨"/", rfl⟩
      obtain ⟨above, habove⟩ := hroot
      refine ⟨above, Or.inr ?_, ?_⟩
      · rw [habove]
        simp
      · rw [List.nil_append, ← habove, String.append_assoc]
    | cons first more =>
      refine ⟨_, Or.inl rfl, ?_⟩
      rw [String.intercalate_append_of_ne_nil (List.cons_ne_nil _ _) (List.cons_ne_nil _ _)]
      simp only [String.append_assoc]

namespace Tree

mutual

/-- The nodes of a tree that declared children alone lead to, each before those below it. -/
def declaredNodes : Tree → List Standing
  | .node s _ declared _ => s :: allDeclaredNodes declared

def allDeclaredNodes : List Tree → List Standing
  | [] => []
  | t :: ts => declaredNodes t ++ allDeclaredNodes ts

end

/-! ### Faults of the disk -/

section
variable {α β : Type}

/-- If there is a fault, it is one of the disk. -/
def DiskOnly (x : Except TreeFault α) : Prop := ∀ fault, x = .error fault → ∃ f, fault = .disk f

theorem diskOnly_ok (a : α) : DiskOnly (.ok a) := fun _ hx => (nomatch hx)

theorem diskOnly_mapError (x : Except DiskFault α) : DiskOnly (x.mapError .disk) := by
  intro fault hx
  cases x with
  | ok a => cases hx
  | error f =>
    cases hx
    exact ⟨f, rfl⟩

theorem DiskOnly.bind {x : Except TreeFault α} {f : α → Except TreeFault β} (hx : DiskOnly x) (hf : ∀ a, DiskOnly (f a)) :
    DiskOnly (x >>= f) := by
  cases x with
  | error fault =>
    intro fault' heq
    cases heq
    exact hx fault rfl
  | ok a => exact hf a

end

variable {h : Host} {path : Path} {parent s : Standing}

theorem diskOnly_expandAll (patterns : List String) : ∀ found : List Path,
    DiskOnly (expandAll h path patterns found).outcome := by
  induction patterns with
  | nil =>
    intro found
    exact diskOnly_ok found
  | cons pattern patterns ih =>
    intro found
    rw [expandAll, Told.outcome_bind]
    exact (diskOnly_mapError _).bind fun more => ih (found ++ more)

theorem diskOnly_derive (settings : Settings) : DiskOnly (derive h path settings parent).outcome := by
  unfold derive
  simp only [Told.outcome_bind]
  refine (diskOnly_expandAll _ _).bind fun excludes => ?_
  exact (diskOnly_expandAll _ _).bind fun includes => diskOnly_ok _

/-! ### Building along the nodes of a config -/

/-- What building listed nodes of a config below a path comes to: the config's fault at the first refused node, or else
all their paths. -/
def foreseen (path : Path) (ns : List Outline.Listed) : Except TreeFault (List Path) :=
  match Outline.firstRefused ns with
  | some (names, fault) => .error (.config ⟨(path.below names).text, fault⟩)
  | none => .ok (ns.map fun n => path.below n.1)

theorem foreseen_cons (ns : List Outline.Listed) :
    foreseen path (([], none) :: ns) = do return path :: (← foreseen path ns) := by
  have hfirst : Outline.firstRefused (([], none) :: ns) = Outline.firstRefused ns := rfl
  unfold foreseen
  rw [hfirst]
  cases Outline.firstRefused ns with
  | some r => rfl
  | none =>
    rw [List.map_cons, Path.below_nil]
    rfl

theorem foreseen_under (name : String) (ns : List Outline.Listed) :
    foreseen path (ns.map fun n => (name :: n.1, n.2)) = foreseen (path.child name) ns := by
  unfold foreseen
  rw [Outline.firstRefused_under]
  cases Outline.firstRefused ns with
  | some r => simp only [Option.map_some, Path.child_below]
  | none =>
    simp only [Option.map_none, List.map_map, Path.child_below]
    rfl

theorem foreseen_append (ns more : List Outline.Listed) :
    foreseen path (ns ++ more) = do return (← foreseen path ns) ++ (← foreseen path more) := by
  unfold foreseen
  rw [Outline.firstRefused_append]
  cases Outline.firstRefused ns with
  | some r => rfl
  | none =>
    cases Outline.firstRefused more with
    | some r => rfl
    | none =>
      rw [List.map_append]
      rfl

/-- What is built has the declared nodes that were foreseen, unless the disk fails. -/
def AsForeseen {α : Type} (x : Except TreeFault α) (nodes : α → List Standing) (path : Path) (ns : List Outline.Listed) : Prop :=
  (∃ f, x = .error (.disk f)) ∨ (do return (nodes (← x)).map (·.path)) = foreseen path ns

theorem AsForeseen.after {α β : Type} {x : Except TreeFault α} {f : α → Except TreeFault β} {nodes : β → List Standing}
    {ns : List Outline.Listed} (hx : DiskOnly x) (hf : ∀ a, x = .ok a → AsForeseen (f a) nodes path ns) :
    AsForeseen (x >>= f) nodes path ns := by
  cases x with
  | error fault =>
    obtain ⟨f, rfl⟩ := hx fault rfl
    exact Or.inl ⟨f, rfl⟩
  | ok a => exact hf a rfl

mutual

theorem ofOutline_foreseen : ∀ (o : Outline) (path : Path) (parent : Standing),
    AsForeseen (ofOutline h path parent o).outcome declaredNodes path o.nodes
  | .refused fault, path, parent => by
    right
    rw [ofOutline, Outline.nodes]
    have hfirst : Outline.firstRefused [([], some fault)] = some ([], fault) := rfl
    unfold foreseen
    rw [hfirst]
    simp only [Path.below_nil]
    rfl
  | .node source settings children, path, parent => by
    rw [ofOutline, Outline.nodes]
    simp only [Told.outcome_bind]
    refine AsForeseen.after (diskOnly_derive settings) fun s hs => ?_
    obtain ⟨rfl, -, -⟩ := derive_inv hs
    unfold AsForeseen
    rw [foreseen_cons]
    rcases ofDeclared_foreseen children s with ⟨f, hf⟩ | hdeclared
    · exact Or.inl ⟨f, by rw [hf]; rfl⟩
    · rw [← hdeclared]
      cases (ofDeclared h s children).outcome with
      | error fault => exact Or.inr rfl
      | ok declared =>
        cases hfound : undeclared h s.path (children.map (·.1)) with
        | error f => exact Or.inl ⟨f, rfl⟩
        | ok found => exact Or.inr rfl

theorem ofDeclared_foreseen : ∀ (children : List (String × Outline)) (s : Standing),
    AsForeseen (ofDeclared h s children).outcome allDeclaredNodes s.path (Outline.nodesAll children)
  | [], s => by
    right
    rw [ofDeclared, Outline.nodesAll]
    rfl
  | (name, child) :: rest, s => by
    unfold AsForeseen
    rw [ofDeclared, Outline.nodesAll, foreseen_append, foreseen_under]
    simp only [Told.outcome_bind]
    rcases ofOutline_foreseen child (s.path.child name) s with ⟨f, hf⟩ | hchild
    · exact Or.inl ⟨f, by rw [hf]; rfl⟩
    · rw [← hchild]
      cases ht : (ofOutline h (s.path.child name) s child).outcome with
      | error fault => exact Or.inr rfl
      | ok t =>
        rcases ofDeclared_foreseen rest s with ⟨f, hf⟩ | hrest
        · exact Or.inl ⟨f, by rw [hf]; rfl⟩
        · rw [← hrest]
          cases hts : (ofDeclared h s rest).outcome with
          | error fault => exact Or.inr rfl
          | ok ts =>
            right
            show Except.ok ((allDeclaredNodes (t :: ts)).map (·.path)) = _
            rw [allDeclaredNodes, List.map_append]
            rfl

end

/-! ### Checking and building -/

/-- Two errors are of one node of a config. They say the same, one with the path of the node below a root and the other
with its names behind a location. -/
def OfOneNode (config : Value) (root : Path) (location : String) (e e' : NodeError) : Prop :=
  ∃ names v, config.at? names = some v ∧ Fragment.ofValue v = .error e.fault ∧ e'.fault = e.fault ∧
    e.location = (root.below names).text ∧ e'.location = Outline.locationBelow location names ∧
    ∃ above said, (above = root.text ∨ above ++ "/" = root.text) ∧ e.message = above ++ said ∧ e'.message = location ++ said

theorem ofOneNode {config : Value} {root : Path} (hr : root.root ≠ .working) (location : String) {names : List String}
    {fault : NodeFault} (hf : Outline.firstRefused (Outline.ofValue config).nodes = some (names, fault)) :
    OfOneNode config root location ⟨(root.below names).text, fault⟩ ⟨Outline.locationBelow location names, fault⟩ := by
  obtain ⟨v, hv, hfault⟩ := Outline.value_of_mem_nodes rfl _ (Outline.mem_of_firstRefused hf)
  obtain ⟨above, habove, htext⟩ := Path.text_below_spelled hr names
  refine ⟨names, v, hv, hfault fault rfl, rfl, rfl, rfl, above, Outline.spelled names ++ fault.message "", habove, ?_, ?_⟩
  · show fault.message (root.below names).text = _
    rw [NodeFault.message_eq, htext, String.append_assoc]
  · show fault.message (Outline.locationBelow location names) = _
    rw [NodeFault.message_eq, Outline.locationBelow_eq, String.append_assoc]

/-- Building a tree of a config ends as foreseen, unless the disk fails. -/
theorem build_foreseen (h : Host) (config : Value) (root : Path) :
    AsForeseen (build h config root).outcome declaredNodes (h.absolute root) (Outline.ofValue config).nodes :=
  ofOutline_foreseen (Outline.ofValue config) (h.absolute root) (.outermost (h.absolute root))

/-- Where a tree is built, no node of the config is refused, and the declared nodes are those that are counted. -/
theorem count_of_built {h : Host} {config : Value} {root : Path} {t : Tree} (hb : (build h config root).outcome = .ok t)
    (location : String) : (Outline.ofValue config).count location = .ok t.declaredNodes.length := by
  rcases build_foreseen h config root with ⟨f, hf⟩ | hbuild
  · cases hb.symm.trans hf
  · rw [hb] at hbuild
    rw [Outline.count_eq]
    unfold foreseen at hbuild
    unfold Outline.verdict
    cases hfirst : Outline.firstRefused (Outline.ofValue config).nodes with
    | some r =>
      rw [hfirst] at hbuild
      cases hbuild
    | none =>
      rw [hfirst] at hbuild
      have hlength := congrArg List.length (Except.ok.inj hbuild)
      rw [List.length_map, List.length_map] at hlength
      exact congrArg Except.ok hlength.symm

/-- Where a config stops building, checking it stops, with an error of the same node. -/
theorem count_of_stopped {h : Host} {config : Value} {root : Path} {e : NodeError}
    (hb : (build h config root).outcome = .error (.config e)) (location : String) :
    ∃ e', (Outline.ofValue config).count location = .error e' ∧ OfOneNode config (h.absolute root) location e e' := by
  rcases build_foreseen h config root with ⟨f, hf⟩ | hbuild
  · cases hb.symm.trans hf
  · rw [hb] at hbuild
    rw [Outline.count_eq]
    unfold foreseen at hbuild
    unfold Outline.verdict
    cases hfirst : Outline.firstRefused (Outline.ofValue config).nodes with
    | some r =>
      obtain ⟨names, fault⟩ := r
      rw [hfirst] at hbuild
      cases hbuild
      exact ⟨_, rfl, ofOneNode (h.absolute_root root) location hfirst⟩
    | none =>
      rw [hfirst] at hbuild
      cases hbuild

/-- Unless the disk fails, a config is built or stops at a node. -/
theorem built_or_stopped {h : Host} {config : Value} {root : Path}
    (hdisk : ∀ fault, (build h config root).outcome ≠ .error (.disk fault)) :
    (∃ t, (build h config root).outcome = .ok t) ∨ ∃ e, (build h config root).outcome = .error (.config e) := by
  rcases build_foreseen h config root with ⟨f, hf⟩ | hbuild
  · exact absurd hf (hdisk f)
  · cases hb : (build h config root).outcome with
    | ok t => exact Or.inl ⟨t, rfl⟩
    | error fault =>
      rw [hb] at hbuild
      unfold foreseen at hbuild
      split at hbuild
      · cases hbuild
        exact Or.inr ⟨_, rfl⟩
      · cases hbuild

/-- Unless the disk fails, building a tree of a config stops if and only if checking the config does, both at one node;
if neither stops, the declared nodes of the tree are the nodes that are counted. -/
theorem build_agrees_with_count (h : Host) (config : Value) (root : Path) (location : String)
    (hdisk : ∀ fault, (build h config root).outcome ≠ .error (.disk fault)) :
    ((∃ t, (build h config root).outcome = .ok t) ∨ ∃ e, (build h config root).outcome = .error (.config e)) ∧
      ((∃ e, (build h config root).outcome = .error (.config e)) ↔ ∃ e, (Outline.ofValue config).count location = .error e) ∧
      (∀ e e', (build h config root).outcome = .error (.config e) → (Outline.ofValue config).count location = .error e' →
        OfOneNode config (h.absolute root) location e e') ∧
      ∀ t n, (build h config root).outcome = .ok t → (Outline.ofValue config).count location = .ok n →
        n = t.declaredNodes.length := by
  refine ⟨built_or_stopped hdisk, ⟨?_, ?_⟩, ?_, ?_⟩
  · rintro ⟨e, he⟩
    obtain ⟨e', he', -⟩ := count_of_stopped he location
    exact ⟨e', he'⟩
  · rintro ⟨e', he'⟩
    rcases built_or_stopped hdisk with ⟨t, ht⟩ | hstopped
    · cases he'.symm.trans (count_of_built ht location)
    · exact hstopped
  · intro e e' he he'
    obtain ⟨e'', he'', hnode⟩ := count_of_stopped he location
    cases he'.symm.trans he''
    exact hnode
  · intro t n ht hn
    cases hn.symm.trans (count_of_built ht location)
    rfl

/-- A config with two nodes below each other, the lower one with more entries, and a third beside them. -/
def Nested.config (entries : Entries) : Value :=
  .map [(.text "a", .map [(.text "b", .map entries)]), (.text "c", .null)]

def Nested.host : Host := Trial.host [("a", .directory { mode := 0o755, gid := 0 } [("notes", Trial.file 0o644)])] []

/-- The error of a config that stopped building. -/
def configError? {α : Type} : Except TreeFault α → Option NodeError
  | .error (.config e) => some e
  | _ => none

theorem exists_of_configError? {α : Type} {x : Except TreeFault α} {P : NodeError → Prop} [DecidablePred P]
    (hx : (configError? x).any (fun e => P e) = true) : ∃ e, x = .error (.config e) ∧ P e := by
  obtain ⟨e, he, hP⟩ := Option.any_eq_true _ _ |>.mp hx
  refine ⟨e, ?_, of_decide_eq_true hP⟩
  unfold configError? at he
  split at he
  · cases he
    rfl
  · cases he

theorem build_agrees_with_count_course :
    (∃ e e', (build Nested.host (Nested.config [(.bool true, .null)]) Trial.root).outcome = .error (.config e) ∧
      (Outline.ofValue (Nested.config [(.bool true, .null)])).count Outline.rootLocation = .error e' ∧
      OfOneNode (Nested.config [(.bool true, .null)]) (Nested.host.absolute Trial.root) Outline.rootLocation e e' ∧
      e.location = "/course/a/b") ∧
    ∃ t, (build Nested.host (Nested.config []) Trial.root).outcome = .ok t ∧
      (Outline.ofValue (Nested.config [])).count Outline.rootLocation = .ok 4 ∧ t.declaredNodes.length = 4 := by
  constructor
  · obtain ⟨e, he, hlocation⟩ : ∃ e, (build Nested.host (Nested.config [(.bool true, .null)]) Trial.root).outcome =
        .error (.config e) ∧ e.location = "/course/a/b" := exists_of_configError? (by decide +kernel)
    obtain ⟨-, hiff, hnode, -⟩ := build_agrees_with_count Nested.host _ Trial.root Outline.rootLocation
      (fun fault hf => by cases he.symm.trans hf)
    obtain ⟨e', he'⟩ := hiff.mp ⟨e, he⟩
    exact ⟨e, e', he, he', hnode e e' he he', hlocation⟩
  · obtain ⟨t, ht, hlength⟩ : ∃ t, (build Nested.host (Nested.config []) Trial.root).outcome = .ok t ∧
        t.declaredNodes.length = 4 := exists_of_built (by decide +kernel)
    obtain ⟨-, hiff, -, hnumber⟩ := build_agrees_with_count Nested.host _ Trial.root Outline.rootLocation
      (fun fault hf => by cases ht.symm.trans hf)
    cases hc : (Outline.ofValue (Nested.config [])).count Outline.rootLocation with
    | error e =>
      obtain ⟨e', he'⟩ := hiff.mpr ⟨e, hc⟩
      cases ht.symm.trans he'
    | ok n =>
      have hn := hnumber t n ht hc
      rw [hlength] at hn
      exact ⟨t, ht, by rw [hn], hlength⟩

end Tree

end Curfew
