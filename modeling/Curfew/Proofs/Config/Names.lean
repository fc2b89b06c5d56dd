import Curfew.Config.Outline

/-! Names of declared children. Each child of a node is declared under a name of its own, and the name is
one component of a path. -/

namespace Curfew

/-! ### One node -/

namespace Fragment

theorem putChild_names (name : String) (entries : Entries) : ∀ children : List (String × Entries),
    (putChild name entries children).map (·.1) =
      if name ∈ children.map (·.1) then children.map (·.1) else children.map (·.1) ++ [name]
  | [] => rfl
  | child :: rest => by
    have ih := putChild_names name entries rest
    unfold putChild
    by_cases h : child.1 = name
    · simp [h]
    · simp only [h, ↓reduceIte, List.map_cons, ih, List.mem_cons, Ne.symm h, false_or]
      split <;> rfl

/-- The names of the children are segments and told apart. -/
structure Named (f : Fragment) : Prop where
  segments : ∀ child ∈ f.children, isSegment child.1 = true
  distinct : (f.children.map (·.1)).Nodup

theorem Named.addChild {name : String} {value : Value} {f g : Fragment} (hf : f.Named)
    (h : f.addChild name value = .ok g) : g.Named := by
  simp only [Fragment.addChild, bind, Except.bind] at h
  split at h
  · cases h
  · rename_i entries _
    split at h
    · rename_i hname
      cases h
      refine ⟨fun child hc => ?_, ?_⟩
      · rcases mem_putChild hc with hc | rfl
        · exact hf.segments child hc
        · exact hname
      · show ((putChild name entries f.children).map (·.1)).Nodup
        rw [putChild_names]
        split
        · exact hf.distinct
        · rename_i hnew
          refine List.nodup_append.mpr ⟨hf.distinct, List.nodup_cons.mpr ⟨by simp, List.nodup_nil⟩, ?_⟩
          rintro a ha b hb rfl
          exact hnew (List.mem_singleton.mp hb ▸ ha)
    · cases h

theorem Named.add {f g : Fragment} {entry : Value × Value} (hf : f.Named) (h : f.add entry = .ok g) : g.Named := by
  unfold Fragment.add at h
  split at h
  · split at h
    · cases h
      exact hf
    · exact hf.addChild h
  · exact hf.addChild h
  · unfold addDated at h
    split at h <;> cases h
    exact ⟨hf.segments, hf.distinct⟩
  · cases h

theorem Named.foldlM_add {f g : Fragment} (entries : Entries) (hf : f.Named) (h : entries.foldlM Fragment.add f = .ok g) :
    g.Named := by
  induction entries generalizing f with
  | nil =>
    cases h
    exact hf
  | cons entry entries ih =>
    simp only [List.foldlM_cons, bind, Except.bind] at h
    split at h
    · cases h
    · rename_i f' hf'
      exact ih (hf.add hf') h

theorem named_ofEntries {entries : Entries} {f : Fragment} (h : ofEntries entries = .ok f) : f.Named := by
  unfold ofEntries at h
  split at h
  · cases h
  · exact Named.foldlM_add entries ⟨by simp, by simp⟩ h

end Fragment

/-! ### All nodes -/

namespace Outline

mutual

/-- The names of the children are segments and told apart, at every node. -/
def Named : Outline → Prop
  | .refused _ => True
  | .node _ _ children => (children.map (·.1)).Nodup ∧ AllNamed children

def AllNamed : List (String × Outline) → Prop
  | [] => True
  | (name, child) :: rest => Fragment.isSegment name = true ∧ Named child ∧ AllNamed rest

end

theorem allNamed_iff : ∀ {children : List (String × Outline)},
    AllNamed children ↔ ∀ child ∈ children, Fragment.isSegment child.1 = true ∧ child.2.Named
  | [] => by simp [AllNamed]
  | (name, child) :: rest => by
    have ih : AllNamed rest ↔ _ := allNamed_iff
    simp [AllNamed, ih, and_assoc]

theorem named_ofEntries (entries : Entries) : (ofEntries entries).Named := by
  induction entries using ofEntries.induct with
  | case1 entries fault h =>
    rw [ofEntries]
    split
    · trivial
    · simp_all
  | case2 entries fragment h ih =>
    rw [ofEntries]
    split
    · trivial
    · rename_i f hf
      obtain rfl : f = fragment := Except.ok.inj (hf.symm.trans h)
      have named := Fragment.named_ofEntries h
      refine ⟨?_, allNamed_iff.mpr fun child hc => ?_⟩
      · have names : f.children.attach.map (fun child => child.1.1) = f.children.map (·.1) :=
          List.attach_map_val
        rw [List.map_map]
        exact (congrArg List.Nodup names).mpr named.distinct
      · obtain ⟨c, -, rfl⟩ := List.mem_map.mp hc
        exact ⟨named.segments c.1 c.2, ih c⟩

theorem named_ofValue (value : Value) : (ofValue value).Named := by
  unfold ofValue
  split
  · exact named_ofEntries _
  · trivial

end Outline

end Curfew
