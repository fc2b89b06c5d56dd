import Curfew.Proofs.Config.Declared

/-! Which nodes of a config are refused. Checking a config goes through its nodes in the order in which they are
listed here, each before those below it, and stops at the first one that is refused; otherwise it counts them all. -/

namespace Curfew

/-! ### Messages -/

/-- What is said of a node stands behind its location. -/
theorem NodeFault.message_eq (location : String) (fault : NodeFault) :
    fault.message location = location ++ fault.message "" := by
  cases fault <;> unfold NodeFault.message <;> simp [toString, String.append_assoc]

namespace Outline

/-! ### Locations -/

/-- The location of a node that names lead to from another. -/
def locationBelow (location : String) (names : List String) : String :=
  names.foldl (fun location name => location ++ "/" ++ name) location

/-- Names as they stand behind a location. -/
def spelled (names : List String) : String := String.join (names.map ("/" ++ ·))

theorem spelled_cons (name : String) (names : List String) :
    spelled (name :: names) = "/" ++ name ++ spelled names := by
  simp [spelled]

theorem locationBelow_eq (names : List String) : ∀ location : String,
    locationBelow location names = location ++ spelled names := by
  induction names with
  | nil => simp [locationBelow, spelled]
  | cons name names ih =>
    intro location
    have hrest : locationBelow location (name :: names) = locationBelow (location ++ "/" ++ name) names := rfl
    rw [hrest, ih, spelled_cons]
    simp only [String.append_assoc]

/-! ### Nodes in their order -/

/-- A node in a list: the names that lead to it and its fault if it is refused. -/
abbrev Listed := List String × Option NodeFault

mutual

/-- All nodes of an outline, each before those below it. -/
def nodes : Outline → List Listed
  | .refused fault => [([], some fault)]
  | .node _ _ children => ([], none) :: nodesAll children

def nodesAll : List (String × Outline) → List Listed
  | [] => []
  | (name, child) :: rest => (nodes child).map (fun n => (name :: n.1, n.2)) ++ nodesAll rest

end

/-- The first node of a list that is refused. -/
def firstRefused (ns : List Listed) : Option (List String × NodeFault) :=
  ns.findSome? fun n => n.2.map (n.1, ·)

theorem firstRefused_append (ns more : List Listed) :
    firstRefused (ns ++ more) = (firstRefused ns).or (firstRefused more) :=
  List.findSome?_append

theorem firstRefused_under (name : String) (ns : List Listed) :
    firstRefused (ns.map fun n => (name :: n.1, n.2)) = (firstRefused ns).map fun r => (name :: r.1, r.2) := by
  induction ns with
  | nil => rfl
  | cons n ns ih =>
    unfold firstRefused at ih ⊢
    rw [List.map_cons, List.findSome?_cons, List.findSome?_cons, ih]
    cases n.2 <;> rfl

theorem mem_of_firstRefused {ns : List Listed} {names : List String} {fault : NodeFault}
    (h : firstRefused ns = some (names, fault)) : (names, some fault) ∈ ns := by
  obtain ⟨⟨names', fault'⟩, hmem, hn⟩ := List.exists_of_findSome?_eq_some h
  obtain ⟨fault'', hf, heq⟩ := Option.map_eq_some_iff.mp hn
  cases heq
  cases hf
  exact hmem

/-! ### Checking -/

/-- What checking nodes at a location comes to. -/
def verdict (location : String) (ns : List Listed) : Except NodeError Nat :=
  match firstRefused ns with
  | some (names, fault) => .error ⟨locationBelow location names, fault⟩
  | none => .ok ns.length

mutual

/-- Checking a config stops at its first refused node or counts all nodes. -/
theorem count_eq : ∀ (location : String) (o : Outline), o.count location = verdict location o.nodes
  | _, .refused _ => rfl
  | location, .node _ _ children => by
    have hfirst : firstRefused (([], none) :: nodesAll children) = firstRefused (nodesAll children) := rfl
    rw [count, countAll_eq location children, nodes]
    unfold verdict
    rw [hfirst, List.length_cons]
    cases firstRefused (nodesAll children) with
    | none => exact congrArg Except.ok (Nat.add_comm _ _)
    | some r => rfl

theorem countAll_eq : ∀ (location : String) (children : List (String × Outline)),
    countAll location children = verdict location (nodesAll children)
  | _, [] => rfl
  | location, (name, child) :: rest => by
    rw [countAll, count_eq (location ++ "/" ++ name) child, countAll_eq location rest, nodesAll]
    unfold verdict
    rw [firstRefused_append, firstRefused_under, List.length_append, List.length_map]
    cases firstRefused (nodes child) with
    | some r => rfl
    | none =>
      cases firstRefused (nodesAll rest) with
      | some r => rfl
      | none => rfl

end

/-! ### Listed nodes and the values of a config -/

theorem fragment_of_refused {v : Value} {fault : NodeFault} (h : ofValue v = .refused fault) :
    Fragment.ofValue v = .error fault := by
  unfold ofValue at h
  unfold Fragment.ofValue
  split at h
  · rename_i entries hentries
    rw [ofEntries] at h
    split at h
    · rename_i fault' hf
      cases h
      rw [hentries]
      exact hf
    · cases h
  · rename_i fault' hnode
    cases h
    rw [hnode]
    rfl

mutual

/-- A listed node is what the config holds down its names, and it is refused if that is no node. -/
theorem value_of_mem_nodes : ∀ {o : Outline} {v : Value}, ofValue v = o → ∀ n ∈ o.nodes,
    ∃ w, v.at? n.1 = some w ∧ ∀ fault, n.2 = some fault → Fragment.ofValue w = .error fault
  | .refused fault, v, hv, n, hn => by
    rw [nodes, List.mem_singleton] at hn
    subst hn
    refine ⟨v, rfl, fun fault' hf => ?_⟩
    cases hf
    exact fragment_of_refused hv
  | .node source settings children, v, hv, n, hn => by
    rw [nodes, List.mem_cons] at hn
    rcases hn with rfl | hn
    · exact ⟨v, rfl, fun _ hf => by cases hf⟩
    · have hnamed := named_ofValue v
      rw [hv] at hnamed
      refine value_of_mem_nodesAll (fun child hc => ?_) n hn
      have hlookup := lookup_ofValue hv child.1
      rw [Entry.lookup_of_mem hnamed.1 hc] at hlookup
      exact Option.map_eq_some_iff.mp hlookup.symm

theorem value_of_mem_nodesAll : ∀ {children : List (String × Outline)} {v : Value},
    (∀ child ∈ children, ∃ w, v.child? child.1 = some w ∧ ofValue w = child.2) → ∀ n ∈ nodesAll children,
    ∃ w, v.at? n.1 = some w ∧ ∀ fault, n.2 = some fault → Fragment.ofValue w = .error fault
  | [], _, _, n, hn => by simp [nodesAll] at hn
  | (name, child) :: rest, v, hv, n, hn => by
    obtain ⟨⟨w, hw, hchild⟩, hrest⟩ := List.forall_mem_cons.mp hv
    rw [nodesAll, List.mem_append, List.mem_map] at hn
    rcases hn with ⟨m, hm, rfl⟩ | hn
    · obtain ⟨u, hu, hfault⟩ := value_of_mem_nodes hchild m hm
      exact ⟨u, by rw [Value.at?, hw, Option.bind_some, hu], hfault⟩
    · exact value_of_mem_nodesAll hrest n hn

end

end Outline

end Curfew
