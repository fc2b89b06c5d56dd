import Curfew.Proofs.Host.Absence
import Curfew.Proofs.Host.Files

/-! Directories that are made. Making the directories above a file makes only what was missing, so that behind them there
is nothing yet: where they had to be made there was no file before, and there is none by then. Dots in the path are another
matter, since a path may lead back out of a directory that is made only now. -/

namespace Curfew

theorem Path.child_parent {p : Path} (h : p.names ≠ []) : p.parent.child (p.names.getLast h) = p := by
  obtain ⟨root, names⟩ := p
  exact congrArg (Path.mk root) (List.dropLast_concat_getLast h)

/-- No name of a path is a dot or two. -/
def Path.Dotless (p : Path) : Prop := ∀ name ∈ p.names, name ≠ "." ∧ name ≠ ".."

instance (p : Path) : Decidable p.Dotless := inferInstanceAs (Decidable (∀ name ∈ p.names, name ≠ "." ∧ name ≠ ".."))

theorem Path.Dotless.parent {p : Path} (h : p.Dotless) : p.parent.Dotless := fun name hname => h name ((List.dropLast_sublist _).subset hname)

namespace Resolved
variable {disk : Entry} {n : Nat} {here l : Location} {names more : List String}

/-- What is followed without the last link is followed with it. -/
theorem Way.followed (hw : Way disk false n here names l more) : Way disk true n here names l more := by
  induction hw with
  | here l names => exact .here l names
  | enter ht _ ih => exact .enter ht ih
  | link ht _ _ ih => exact .link ht (Or.inr rfl) ih

end Resolved

namespace Host

open Resolved

variable {h h' : Host} {p : Path} {name : String}

/-! ### Paths to nothing -/

/-- All links followed, a directory on the way along a path lacks the next name. -/
def Nowhere (h : Host) (p : Path) : Prop :=
  ∃ n left l name rest, mostLinks = left + n ∧ Way h.disk true n (h.start p) p.names l (name :: rest) ∧ turn h.disk l name = .free

/-- A path leads to an empty directory. -/
def Fresh (h : Host) (p : Path) : Prop :=
  ∃ l a, ofNames h.disk true mostLinks (h.start p) p.names = .ok (.found l) ∧ h.disk.get? l = some (.directory a [])

theorem Nowhere.names_ne_nil (hn : h.Nowhere p) : p.names ≠ [] := by
  obtain ⟨n, left, l, name, rest, -, hw, -⟩ := hn
  intro hnil
  rw [hnil] at hw
  cases hw

theorem Nowhere.child (hn : h.Nowhere p) (name : String) : h.Nowhere (p.child name) := by
  obtain ⟨n, left, l, next, rest, hlinks, hw, ht⟩ := hn
  exact ⟨n, left, l, next, rest ++ [name], hlinks, hw.append (List.cons_ne_nil name []) true, ht⟩

theorem content_of_nowhere (hc : checkText p.text = .ok ()) (hn : h.Nowhere p) :
    h.content p = .error (.system .notFound p) := by
  obtain ⟨n, left, l, name, rest, hlinks, hw, ht⟩ := hn
  have hr := resolve_of_stops hc ⟨n, left, l, _, hlinks, hw, .free rest ht⟩
  unfold content look locate
  rw [hr]
  split <;> rfl

/-- In an empty directory every name is free. -/
theorem Fresh.child (hf : h.Fresh p) (hname : name ≠ "." ∧ name ≠ "..") {follow : Bool} {r : Resolved}
    (hr : h.resolve (p.child name) follow = .ok r) : ∃ l, r = .missing l name := by
  obtain ⟨l, a, hl, hd⟩ := hf
  obtain ⟨links, hon⟩ := ofNames_on mostLinks _ _ hl
  have hbehind : ofNames h.disk follow links l [name] = .ok r :=
    (hon follow [name] (List.cons_ne_nil _ _)).symm.trans (resolve_eq_ok.mp hr).2
  refine ⟨l, ?_⟩
  cases step_of_directory hd hname with
  | tooLong _ ht =>
    rw [ofNames_fault ht] at hbehind
    cases hbehind
  | free _ ht =>
    rw [ofNames_free ht, if_pos rfl] at hbehind
    exact (Except.ok.inj hbehind).symm
  | link _ _ hchild | down _ hchild => cases hchild

/-! ### Directories -/

/-- Where a directory is made there was nothing, and there is nothing in it. -/
theorem makeDirectory_fresh (hm : h.makeDirectory p = .ok h') : h.Nowhere p ∧ h'.Fresh p := by
  obtain ⟨directory, name, a, hr, rfl⟩ := makeDirectory_inv hm
  obtain ⟨hc, hnames⟩ := resolve_eq_ok.mp hr
  obtain ⟨n, left, l, more, hlinks, hw, hs⟩ := ofNames_eq_iff.mp hnames
  generalize hmissing : (Except.ok (.missing directory name) : Except SystemError Resolved) = r at hs
  cases hs with
  | done | lastLink | fault | noLinkLeft => cases hmissing
  | free rest ht =>
    have hrest : rest = [] := Classical.byContradiction fun hne => by
      rw [if_neg hne] at hmissing
      cases hmissing
    rw [if_pos hrest] at hmissing
    obtain ⟨rfl, rfl⟩ := Resolved.missing.inj (Except.ok.inj hmissing)
    refine ⟨⟨n, left, _, _, rest, hlinks, hw.followed, ht⟩, ?_⟩
    have hfollowed := resolve_of_stops hc ⟨n, left, _, _, hlinks, hw.followed, .free rest ht⟩
    rw [if_pos hrest] at hfollowed
    obtain ⟨hg, hget⟩ := grows_put hfollowed (.directory a [])
    have hfound := hg.resolve hfollowed fun d n hm => by
      cases hm
      exact ⟨_, by unfold Entry.bareAt; rw [hget]; rfl, by simp [Entry.bare]⟩
    exact ⟨_, a, (resolve_eq_ok.mp hfound).2, hget⟩

theorem ensureDirectory_inv (hm : h.ensureDirectory p = .ok h') :
    (h' = h ∧ h.leadsToDirectory p = .ok true) ∨ h.makeDirectory p = .ok h' := by
  unfold ensureDirectory at hm
  split at hm
  · cases hm
  · obtain ⟨b, hb, hm⟩ := bind_eq_ok.mp hm
    cases b with
    | true =>
      obtain rfl := Except.ok.inj hm
      exact Or.inl ⟨rfl, hb⟩
    | false => cases hm
  · exact Or.inr hm

/-- An empty directory is not left through a name. -/
theorem Fresh.not_leadsToDirectory (hf : h.Fresh p) (hname : name ≠ "." ∧ name ≠ "..") :
    h.leadsToDirectory (p.child name) ≠ .ok true := by
  intro hleads
  unfold leadsToDirectory test at hleads
  cases hl : h.look (p.child name) true with
  | ok found =>
    obtain ⟨l, hmissing⟩ := hf.child hname (locate_eq_ok_iff_resolve.mp (look_eq_ok.mp hl).1)
    cases hmissing
  | error fault =>
    rw [hl] at hleads
    split at hleads <;> simp_all

/-- Either all directories along a path are there, or the path led nowhere and leads to an empty directory now. -/
theorem makeDirectories_inv (fuel : Nat) : ∀ {p : Path} {h' : Host}, p.Dotless → makeDirectories fuel p h = .ok h' →
    h' = h ∨ h.Nowhere p ∧ h'.Fresh p := by
  have once : ∀ {p : Path} {h' : Host}, h.ensureDirectory p = .ok h' → h' = h ∨ h.Nowhere p ∧ h'.Fresh p := fun hm =>
    (ensureDirectory_inv hm).imp And.left makeDirectory_fresh
  induction fuel with
  | zero => exact fun _ hm => once hm
  | succ fuel ih =>
    intro p h' hdotless hm
    rw [makeDirectories] at hm
    split at hm
    · rename_i q hmissing
      split at hm
      · cases hm
      · rename_i hnames
        have hne : p.names ≠ [] := by simpa using hnames
        obtain ⟨k, hk, hthen⟩ := bind_eq_ok.mp hm
        rcases ih hdotless.parent hk with rfl | ⟨hnowhere, hfresh⟩
        · cases hmissing.symm.trans hthen
        · have hlast := hdotless _ (List.getLast_mem hne)
          rcases ensureDirectory_inv hthen with ⟨-, hleads⟩ | hmade
          · rw [← Path.child_parent hne] at hleads
            exact absurd hleads (hfresh.not_leadsToDirectory hlast)
          · refine Or.inr ⟨?_, (makeDirectory_fresh hmade).2⟩
            rw [← Path.child_parent hne]
            exact hnowhere.child _
    · exact once hm

/-- Either nothing is made above a file that is opened, or there was no file and is none yet. -/
theorem makeParents_inv {opened : Host} (hdotless : p.Dotless) (hm : h.makeParents p = .ok h')
    (ho : h'.appendFile p [] = .ok opened) :
    h' = h ∨ h.content p = .error (.system .notFound p) ∧ h'.content p = .error (.system .notFound p) := by
  rcases makeDirectories_inv _ hdotless.parent hm with rfl | ⟨hnowhere, hfresh⟩
  · exact Or.inl rfl
  · have hne : p.names ≠ [] := by
      intro hnil
      exact hnowhere.names_ne_nil (by simp [Path.parent, hnil])
    obtain ⟨r, hr, -⟩ := bind_eq_ok.mp ho
    have hc := (resolve_eq_ok.mp hr).1
    rw [← Path.child_parent hne] at hr hc ⊢
    obtain ⟨l, rfl⟩ := hfresh.child (hdotless _ (List.getLast_mem hne)) hr
    exact Or.inr ⟨content_of_nowhere hc (hnowhere.child _), content_of_missing hr⟩

end Host

end Curfew
