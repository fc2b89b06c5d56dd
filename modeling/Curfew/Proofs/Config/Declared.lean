import Curfew.Proofs.Config.Names
import Curfew.Proofs.Disk.Shape

/-! What a config declares. Names lead down a config from key to key. Two keys of one mapping may give the same name,
a text and a whole number; then the node under the name is what the last of them holds, and what the other one
declares below it is dropped. -/

namespace Curfew

/-! ### Keys and names -/

namespace Fragment

/-- The name of the child that a key gives. -/
def childName? : Value → Option String
  | .text name => if Directives.reservedKeys.contains name then none else some name
  | .int i => some (Text.decimal i)
  | _ => none

/-- What the keys of a mapping that give a name hold, in their order. -/
def valuesFor (name : String) (entries : Entries) : List Value :=
  entries.filterMap fun entry => if childName? entry.1 = some name then some entry.2 else none

theorem mem_valuesFor {name : String} {entries : Entries} {v : Value} :
    v ∈ valuesFor name entries ↔ ∃ key, (key, v) ∈ entries ∧ childName? key = some name := by
  unfold valuesFor
  rw [List.mem_filterMap]
  constructor
  · rintro ⟨⟨key, w⟩, hmem, hv⟩
    split at hv
    · rename_i hname
      cases hv
      exact ⟨key, hmem, hname⟩
    · cases hv
  · rintro ⟨key, hmem, hname⟩
    exact ⟨(key, v), hmem, if_pos hname⟩

theorem lookup_putChild (name n : String) (entries : Entries) : ∀ children : List (String × Entries),
    (putChild name entries children).lookup n = if n = name then some entries else children.lookup n
  | [] => by
    rw [putChild, Entry.lookup_cons_if]
  | child :: rest => by
    have ih := lookup_putChild name n entries rest
    unfold putChild
    by_cases hc : child.1 = name
    · rw [if_pos hc, Entry.lookup_cons_if, Entry.lookup_cons_if, hc]
      by_cases hn : n = name <;> simp [hn]
    · rw [if_neg hc, Entry.lookup_cons_if, Entry.lookup_cons_if, ih]
      by_cases hn : n = name
      · subst hn
        simp [Ne.symm hc]
      · simp [hn]

/-- A child that is added is the node of what it is given by, and the others stay. -/
theorem lookup_addChild {name : String} {value : Value} {f g : Fragment} (h : f.addChild name value = .ok g) :
    ∃ entries, nodeEntries value = .ok entries ∧
      ∀ n, g.children.lookup n = if n = name then some entries else f.children.lookup n := by
  simp only [addChild, bind, Except.bind] at h
  split at h
  · cases h
  · rename_i entries he
    have hnode : nodeEntries value = .ok entries := by
      cases value <;> cases he <;> rfl
    split at h
    · cases h
      exact ⟨entries, hnode, fun n => lookup_putChild name n entries f.children⟩
    · cases h

theorem lookup_add {f g : Fragment} {entry : Value × Value} (h : f.add entry = .ok g) (n : String) :
    (childName? entry.1 = some n → ∃ entries, nodeEntries entry.2 = .ok entries ∧ g.children.lookup n = some entries) ∧
      (childName? entry.1 ≠ some n → g.children.lookup n = f.children.lookup n) := by
  have child : ∀ {name}, f.addChild name entry.2 = .ok g →
      (some name = some n → ∃ entries, nodeEntries entry.2 = .ok entries ∧ g.children.lookup n = some entries) ∧
        (some name ≠ some n → g.children.lookup n = f.children.lookup n) := by
    intro name h
    obtain ⟨entries, hnode, hlookup⟩ := lookup_addChild h
    refine ⟨fun hn => ⟨entries, hnode, ?_⟩, fun hn => ?_⟩
    · rw [hlookup, if_pos (Option.some.inj hn).symm]
    · rw [hlookup, if_neg fun heq => hn (congrArg some heq.symm)]
  obtain ⟨key, value⟩ := entry
  unfold add at h
  unfold childName?
  cases key with
  | text name =>
    simp only at h ⊢
    split at h
    · rename_i hreserved
      cases h
      rw [if_pos hreserved]
      exact ⟨fun hn => (nomatch hn), fun _ => rfl⟩
    · rename_i hfree
      rw [if_neg hfree]
      exact child h
  | int i => exact child h
  | time date =>
    simp only [addDated] at h
    split at h
    · cases h
      exact ⟨fun hn => (nomatch hn), fun _ => rfl⟩
    · cases h
  | _ => cases h

/-- The child under a name is what the last key for the name holds. -/
theorem lookup_foldlM_add {entries : Entries} {f g : Fragment} (h : entries.foldlM add f = .ok g) (n : String) :
    match (valuesFor n entries).getLast? with
    | some v => ∃ below, nodeEntries v = .ok below ∧ g.children.lookup n = some below
    | none => g.children.lookup n = f.children.lookup n := by
  induction entries generalizing f with
  | nil =>
    cases h
    rfl
  | cons entry entries ih =>
    simp only [List.foldlM_cons, bind, Except.bind] at h
    split at h
    · cases h
    · rename_i f' hf
      obtain ⟨hgiven, hother⟩ := lookup_add hf n
      have ih := ih h
      by_cases hn : childName? entry.1 = some n
      · have hcons : valuesFor n (entry :: entries) = entry.2 :: valuesFor n entries := by
          simp [valuesFor, hn]
        rw [hcons, List.getLast?_cons]
        cases hlast : (valuesFor n entries).getLast? with
        | some v =>
          simp only [hlast] at ih
          exact ih
        | none =>
          obtain ⟨below, hnode, hlookup⟩ := hgiven hn
          simp only [hlast] at ih
          exact ⟨below, hnode, ih.trans hlookup⟩
      · have hcons : valuesFor n (entry :: entries) = valuesFor n entries := by
          simp [valuesFor, hn]
        rw [hcons]
        cases hlast : (valuesFor n entries).getLast? with
        | some v => simpa only [hlast] using ih
        | none =>
          simp only [hlast] at ih
          exact ih.trans (hother hn)

theorem lookup_ofEntries {entries : Entries} {f : Fragment} (h : ofEntries entries = .ok f) (n : String) :
    match (valuesFor n entries).getLast? with
    | some v => ∃ below, nodeEntries v = .ok below ∧ f.children.lookup n = some below
    | none => f.children.lookup n = none := by
  unfold ofEntries at h
  split at h
  · cases h
  · exact lookup_foldlM_add h n

end Fragment

/-! ### Names down a config -/

namespace Value

/-- What a value holds under a name: the value of its last key for the name. -/
def child? (name : String) : Value → Option Value
  | .map entries => (Fragment.valuesFor name entries).getLast?
  | _ => none

/-- What a value holds down names, the last key counting at each of them. -/
def at? : List String → Value → Option Value
  | [], v => some v
  | name :: names, v => (v.child? name).bind (at? names)

/-- Keys for names, any of them, lead from one value down to another. -/
inductive Leads : List String → Value → Value → Prop
  | here (v : Value) : Leads [] v v
  | key {key v w : Value} {entries : Entries} {name : String} {names : List String} :
    (key, v) ∈ entries → Fragment.childName? key = some name → Leads names v w → Leads (name :: names) (.map entries) w

/-- A config declares the path down names if keys lead there. -/
def Declares (config : Value) (names : List String) : Prop := ∃ v, Leads names config v

/-- No two keys of a mapping in a config give the same name. -/
def TellsApart (config : Value) : Prop :=
  ∀ names entries, Leads names config (.map entries) → (entries.filterMap fun entry => Fragment.childName? entry.1).Nodup

theorem mem_of_child? {v w : Value} {name : String} (h : v.child? name = some w) :
    ∃ key entries, v = .map entries ∧ (key, w) ∈ entries ∧ Fragment.childName? key = some name := by
  cases v with
  | map entries =>
    obtain ⟨key, hmem, hname⟩ := Fragment.mem_valuesFor.mp (List.mem_of_getLast? h)
    exact ⟨key, entries, rfl, hmem, hname⟩
  | _ => cases h

theorem leads_of_at? : ∀ {names : List String} {v w : Value}, v.at? names = some w → Leads names v w
  | [], v, w, h => by
    cases h
    exact .here v
  | name :: names, v, w, h => by
    obtain ⟨u, hu, hw⟩ := Option.bind_eq_some_iff.mp h
    obtain ⟨key, entries, rfl, hmem, hname⟩ := mem_of_child? hu
    exact .key hmem hname (leads_of_at? hw)

/-- If one key gives a name, its value is what is held under the name. -/
theorem valuesFor_eq_of_nodup {entries : Entries} {key v : Value} {name : String}
    (hn : (entries.filterMap fun entry => Fragment.childName? entry.1).Nodup) (hmem : (key, v) ∈ entries)
    (hname : Fragment.childName? key = some name) : Fragment.valuesFor name entries = [v] := by
  obtain ⟨before, after, rfl⟩ := List.append_of_mem hmem
  rw [List.filterMap_append, List.filterMap_cons, hname, List.nodup_append] at hn
  obtain ⟨-, hafter, hbefore⟩ := hn
  have none : ∀ part : Entries, (∀ entry ∈ part, Fragment.childName? entry.1 ≠ some name) →
      Fragment.valuesFor name part = [] := fun part hpart => by
    unfold Fragment.valuesFor
    rw [List.filterMap_eq_nil_iff]
    exact fun entry he => if_neg (hpart entry he)
  have hb : Fragment.valuesFor name before = [] := none before fun entry he heq =>
    hbefore name (List.mem_filterMap.mpr ⟨entry, he, heq⟩) name List.mem_cons_self rfl
  have ha : Fragment.valuesFor name after = [] := none after fun entry he heq =>
    (List.nodup_cons.mp hafter).1 (List.mem_filterMap.mpr ⟨entry, he, heq⟩)
  unfold Fragment.valuesFor at hb ha ⊢
  simp [hb, ha, hname]

/-- Where names are told apart, all that is declared is held. -/
theorem at?_of_leads {config v : Value} {names : List String} (ha : config.TellsApart) (h : Leads names config v) :
    config.at? names = some v := by
  induction h with
  | here v => rfl
  | key hmem hname _ ih =>
    have hn := ha [] _ (.here _)
    rw [at?, child?, valuesFor_eq_of_nodup hn hmem hname]
    exact ih fun names entries hl => ha _ entries (.key hmem hname hl)

end Value

/-! ### Outlines -/

namespace Outline

theorem lookup_map {α β : Type} (f : α → β) (name : String) : ∀ children : List (String × α),
    (children.map fun child => (child.1, f child.2)).lookup name = (children.lookup name).map f
  | [] => rfl
  | child :: rest => by
    rw [List.map_cons, Entry.lookup_cons_if, Entry.lookup_cons_if, lookup_map f name rest]
    split <;> rfl

theorem ofValue_eq_of_nodeEntries {v : Value} {entries : Entries} (h : Fragment.nodeEntries v = .ok entries) :
    ofValue v = ofEntries entries := by
  unfold ofValue
  rw [h]

theorem ofEntries_inv {entries source : Entries} {settings : Settings} {children : List (String × Outline)}
    (h : ofEntries entries = .node source settings children) :
    ∃ f, Fragment.ofEntries entries = .ok f ∧ children = f.children.map fun child => (child.1, ofEntries child.2) := by
  rw [ofEntries] at h
  split at h
  · cases h
  · rename_i f hf
    injection h with _ _ hchildren
    refine ⟨f, hf, hchildren.symm.trans ?_⟩
    exact List.attach_map_val (f := fun child : String × Entries => (child.1, ofEntries child.2))

/-- A child of a node is the outline of what the config holds under its name. -/
theorem lookup_ofValue {v : Value} {source : Entries} {settings : Settings} {children : List (String × Outline)}
    (h : ofValue v = .node source settings children) (name : String) :
    children.lookup name = (v.child? name).map ofValue := by
  cases hv : Fragment.nodeEntries v with
  | error fault => simp [ofValue, hv] at h
  | ok entries =>
    rw [ofValue_eq_of_nodeEntries hv] at h
    obtain ⟨f, hf, rfl⟩ := ofEntries_inv h
    have hchild : v.child? name = (Fragment.valuesFor name entries).getLast? := by
      cases v <;> cases hv <;> rfl
    have hlookup := Fragment.lookup_ofEntries hf name
    rw [lookup_map, hchild]
    cases hlast : (Fragment.valuesFor name entries).getLast? with
    | none =>
      simp only [hlast] at hlookup
      rw [hlookup]
      rfl
    | some w =>
      simp only [hlast] at hlookup
      obtain ⟨below, hnode, hlookup⟩ := hlookup
      rw [hlookup, Option.map_some, Option.map_some, ofValue_eq_of_nodeEntries hnode]

end Outline

end Curfew
