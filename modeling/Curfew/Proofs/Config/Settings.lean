import Curfew.Proofs.Config.Declared
import Curfew.Proofs.Faults

/-! What a mapping says as a node. Each entry is accepted or refused by itself, whatever came before it; the dated
policies of a node are those of its entries, in their order. -/

namespace Curfew

namespace Fragment

/-- The policy of an entry under a date. -/
def dated? (entry : Value × Value) : Option (When × ModeSpec) :=
  match entry.1 with
  | .time date => (ModeSpec.ofValue entry.2).toOption.map (date, ·)
  | _ => none

/-- An entry may be added to every node. -/
def Accepted (entry : Value × Value) : Prop := ∀ f : Fragment, ∃ g, f.add entry = .ok g

/-- A mapping is a node with settings. -/
structure Says (entries : Entries) (settings : Settings) : Prop where
  directives : Directives.ofEntries entries = .ok settings.directives
  accepted : ∀ entry ∈ entries, Accepted entry
  dated : settings.dated = entries.filterMap dated?

/-! ### One entry -/

variable {f g : Fragment} {key value : Value} {name : String}

theorem addChild_eq_ok : f.addChild name value = .ok g ↔ ∃ entries, nodeEntries value = .ok entries ∧
    isSegment name = true ∧ g = { f with children := putChild name entries f.children } := by
  have hnode : ∀ entries, childEntries name value = .ok entries ↔ nodeEntries value = .ok entries := by
    cases value <;> simp [childEntries, nodeEntries]
  unfold addChild
  rw [bind_eq_ok]
  simp only [hnode]
  refine exists_congr fun entries => and_congr_right fun _ => ?_
  by_cases hname : isSegment name = true
  · rw [if_pos hname]
    simp [hname, pure, Except.pure, eq_comm]
  · rw [if_neg hname]
    simp [hname, throw, throwThe, MonadExceptOf.throw]

theorem add_of_childName? (hname : childName? key = some name) (value : Value) :
    f.add (key, value) = f.addChild name value := by
  unfold childName? at hname
  unfold add
  cases key with
  | text n =>
    simp only at hname ⊢
    split at hname
    · cases hname
    · rename_i hfree
      cases hname
      rw [if_neg hfree]
  | int i =>
    cases hname
    rfl
  | _ => cases hname

theorem accepted_of_childName? (hname : childName? key = some name) :
    Accepted (key, value) ↔ (∃ entries, nodeEntries value = .ok entries) ∧ isSegment name = true := by
  unfold Accepted
  simp only [add_of_childName? hname, addChild_eq_ok]
  constructor
  · intro hall
    obtain ⟨_, entries, hentries, hsegment, -⟩ := hall { settings := .empty, children := [] }
    exact ⟨⟨entries, hentries⟩, hsegment⟩
  · rintro ⟨⟨entries, hentries⟩, hsegment⟩ f
    exact ⟨_, entries, hentries, hsegment, rfl⟩

theorem dated?_of_childName? (hname : childName? key = some name) : dated? (key, value) = none := by
  unfold childName? at hname
  unfold dated?
  cases key <;> first | rfl | cases hname

theorem accepted_time {date : When} : Accepted (.time date, value) ↔ ∃ spec, ModeSpec.ofValue value = .ok spec := by
  unfold Accepted add addDated
  cases ModeSpec.ofValue value with
  | ok spec => simp
  | error issues =>
    refine ⟨fun hall => ?_, fun ⟨_, hspec⟩ => (nomatch hspec)⟩
    obtain ⟨_, hg⟩ := hall { settings := .empty, children := [] }
    cases hg

/-- What is added to a node does not depend on the node. -/
theorem add_inv {entry : Value × Value} (h : f.add entry = .ok g) :
    Accepted entry ∧ g.settings = { f.settings with dated := f.settings.dated ++ (dated? entry).toList } := by
  obtain ⟨key, value⟩ := entry
  have child : ∀ name, childName? key = some name →
      Accepted (key, value) ∧ g.settings = { f.settings with dated := f.settings.dated ++ (dated? (key, value)).toList } := by
    intro name hname
    rw [add_of_childName? hname] at h
    obtain ⟨entries, hentries, hsegment, rfl⟩ := addChild_eq_ok.mp h
    rw [dated?_of_childName? hname]
    exact ⟨(accepted_of_childName? hname).mpr ⟨⟨entries, hentries⟩, hsegment⟩, by simp⟩
  cases key with
  | text name =>
    by_cases hreserved : Directives.reservedKeys.contains name = true
    · have hadd : ∀ f : Fragment, f.add (.text name, value) = .ok f := fun f => if_pos hreserved
      obtain rfl : f = g := Except.ok.inj ((hadd f).symm.trans h)
      exact ⟨fun f => ⟨f, hadd f⟩, by simp [dated?]⟩
    · exact child name (if_neg hreserved)
  | int i => exact child _ rfl
  | time date =>
    unfold add addDated at h
    cases hspec : ModeSpec.ofValue value with
    | error issues => simp [hspec] at h
    | ok spec =>
      simp only [hspec, Except.ok.injEq] at h
      subst h
      exact ⟨accepted_time.mpr ⟨spec, hspec⟩, by simp [dated?, hspec, Except.toOption]⟩
  | _ => cases h

/-! ### All entries -/

theorem foldlM_add_inv {entries : Entries} : ∀ {f g : Fragment}, entries.foldlM add f = .ok g →
    (∀ entry ∈ entries, Accepted entry) ∧
      g.settings = { f.settings with dated := f.settings.dated ++ entries.filterMap dated? } := by
  induction entries with
  | nil =>
    intro f g h
    cases h
    simp
  | cons entry entries ih =>
    intro f g h
    rw [List.foldlM_cons] at h
    obtain ⟨f', hf, h⟩ := bind_eq_ok.mp h
    obtain ⟨hentry, hsettings⟩ := add_inv hf
    obtain ⟨hrest, hg⟩ := ih h
    refine ⟨List.forall_mem_cons.mpr ⟨hentry, hrest⟩, ?_⟩
    rw [hg, hsettings, List.filterMap_cons]
    cases dated? entry <;> simp

theorem exists_foldlM_add {entries : Entries} : (∀ entry ∈ entries, Accepted entry) → ∀ f : Fragment,
    ∃ g, entries.foldlM add f = .ok g := by
  induction entries with
  | nil => exact fun _ f => ⟨f, rfl⟩
  | cons entry entries ih =>
    intro hall f
    obtain ⟨hentry, hrest⟩ := List.forall_mem_cons.mp hall
    obtain ⟨f', hf⟩ := hentry f
    obtain ⟨g, hg⟩ := ih hrest f'
    exact ⟨g, by rw [List.foldlM_cons, hf, ok_bind, hg]⟩

/-- A mapping is a node if its settings are in order and each of its entries is accepted. -/
theorem says_iff {entries : Entries} {settings : Settings} :
    Says entries settings ↔ ∃ f, ofEntries entries = .ok f ∧ f.settings = settings := by
  unfold ofEntries
  constructor
  · rintro ⟨hdirectives, haccepted, hdated⟩
    obtain ⟨f, hf⟩ := exists_foldlM_add haccepted
      { settings := { directives := settings.directives, dated := [] }, children := [] }
    obtain ⟨-, hsettings⟩ := foldlM_add_inv hf
    refine ⟨f, ?_, ?_⟩
    · rw [hdirectives]
      exact hf
    · rw [hsettings, List.nil_append, ← hdated]
  · rintro ⟨f, hf, rfl⟩
    cases hdirectives : Directives.ofEntries entries with
    | error issues => simp [hdirectives] at hf
    | ok directives =>
      simp only [hdirectives] at hf
      obtain ⟨haccepted, hsettings⟩ := foldlM_add_inv hf
      rw [hsettings]
      exact ⟨hdirectives, haccepted, List.nil_append _⟩

end Fragment

/-! ### Values -/

/-- A value is a node with settings. -/
def Value.Says (v : Value) (settings : Settings) : Prop :=
  ∃ entries, Fragment.nodeEntries v = .ok entries ∧ Fragment.Says entries settings

namespace Outline
variable {v : Value} {settings : Settings}

/-- The outline of a value is a node where the value is one. -/
theorem says_iff : v.Says settings ↔ ∃ source children, ofValue v = .node source settings children := by
  constructor
  · rintro ⟨entries, hentries, hsaid⟩
    obtain ⟨f, hf, rfl⟩ := Fragment.says_iff.mp hsaid
    rw [ofValue_eq_of_nodeEntries hentries, ofEntries]
    split
    · rename_i fault herror
      cases herror.symm.trans hf
    · rename_i g hg
      obtain rfl : g = f := Except.ok.inj (hg.symm.trans hf)
      exact ⟨_, _, rfl⟩
  · rintro ⟨source, children, hv⟩
    cases hentries : Fragment.nodeEntries v with
    | error fault => simp [ofValue, hentries] at hv
    | ok entries =>
      refine ⟨entries, hentries, Fragment.says_iff.mpr ?_⟩
      rw [ofValue_eq_of_nodeEntries hentries, ofEntries] at hv
      split at hv
      · cases hv
      · rename_i f hf
        injection hv with _ hsettings _
        exact ⟨f, hf, hsettings⟩

end Outline

end Curfew
