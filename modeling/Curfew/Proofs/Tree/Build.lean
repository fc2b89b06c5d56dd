import Curfew.Proofs.Host.Reach
import Curfew.Tree.Build

/-! How a tree is built. What a built node is made of, and what its directory has to do with the nodes that are
only found. -/

namespace Curfew

namespace Tree
variable {h : Host} {path : Path} {parent s : Standing}

/-! ### Nodes with settings -/

theorem derive_inv {settings : Settings} (hs : (derive h path settings parent).outcome = .ok s) :
    s.path = path ∧ s.group = settings.directives.group.getD parent.group ∧
      s.policies = Standing.derivePolicies settings parent.policies := by
  simp only [derive, Told.outcome_bind, bind_eq_ok, Told.outcome_pure, Except.ok.injEq] at hs
  obtain ⟨excludes, -, includes, -, rfl⟩ := hs
  exact ⟨rfl, rfl, rfl⟩

/-- A node of a config with what it says becomes a node of the tree with what holds there. -/
theorem ofOutline_inv {o : Outline} {t : Tree} (ht : (ofOutline h path parent o).outcome = .ok t) :
    ∃ source settings children s declared found, o = .node source settings children ∧
      (derive h path settings parent).outcome = .ok s ∧ (ofDeclared h s children).outcome = .ok declared ∧
      undeclared h path (children.map (·.1)) = .ok found ∧ t = .node s source declared (ofChildren s found) := by
  cases o with
  | refused fault =>
    rw [ofOutline] at ht
    cases ht
  | node source settings children =>
    rw [ofOutline] at ht
    simp only [Told.outcome_bind, bind_eq_ok, Told.outcome_pure, Except.ok.injEq, Told.mapFault,
      Told.outcome_ofExcept, mapError_eq_ok] at ht
    obtain ⟨s, hs, declared, hdeclared, found, hfound, rfl⟩ := ht
    exact ⟨source, settings, children, s, declared, found, rfl, hs, hdeclared, hfound, rfl⟩

theorem ofDeclared_nil_inv {ts : List Tree} (hts : (ofDeclared h s []).outcome = .ok ts) : ts = [] := by
  rw [ofDeclared] at hts
  cases hts
  rfl

theorem ofDeclared_cons_inv {name : String} {child : Outline} {rest : List (String × Outline)} {ts : List Tree}
    (hts : (ofDeclared h s ((name, child) :: rest)).outcome = .ok ts) :
    ∃ t more, (ofOutline h (s.path.child name) s child).outcome = .ok t ∧
      (ofDeclared h s rest).outcome = .ok more ∧ ts = t :: more := by
  rw [ofDeclared] at hts
  simp only [Told.outcome_bind, bind_eq_ok, Told.outcome_pure, Except.ok.injEq] at hts
  obtain ⟨t, ht, more, hmore, rfl⟩ := hts
  exact ⟨t, more, ht, hmore, rfl⟩

/-! ### Nodes that are found -/

/-- What is found in a directory are its entries that are not declared. The system could be asked of each entry
below. -/
theorem undeclared_inv {names : List String} {found : List (String × Entry)}
    (hf : undeclared h path names = .ok found) :
    h.isDirectory path = .ok false ∧ found = [] ∨
      h.isDirectory path = .ok true ∧
        (∀ below ∈ Entry.allDescendants found, ∃ b, h.isDirectory (path.below below.1) = .ok b) ∧
        ∃ l a children, h.look path true = .ok (l, .directory a children) ∧
          found = children.filter fun child => !names.contains child.1 := by
  unfold undeclared at hf
  obtain ⟨b, hb, hf⟩ := bind_eq_ok.mp hf
  cases b with
  | false => exact Or.inl ⟨hb, (Except.ok.inj hf).symm⟩
  | true =>
    simp only [↓reduceIte] at hf
    obtain ⟨children, hc, hf⟩ := bind_eq_ok.mp hf
    obtain ⟨_, hcheck, hf⟩ := bind_eq_ok.mp hf
    have hfound := (Except.ok.inj hf).symm
    have hasked : ∀ below ∈ Entry.allDescendants found, ∃ b, h.isDirectory (path.below below.1) = .ok b := by
      rw [hfound]
      exact fun below hbelow => (bind_eq_ok.mp (forM_eq_ok.mp hcheck below hbelow)).imp fun b hb => hb.1
    refine Or.inr ⟨hb, hasked, ?_⟩
    unfold Host.asUnavailable at hc
    split at hc
    · cases hc
    · unfold Host.children at hc
      obtain ⟨⟨l, e⟩, hl, hc⟩ := bind_eq_ok.mp hc
      cases e with
      | file => cases hc
      | link => cases hc
      | directory a entries =>
        cases hc
        exact ⟨l, a, children, hl, hfound⟩

/-! ### Trees to try -/

/-- A tree that is built and of which something was decided. -/
theorem exists_of_built {x : Told TreeFault Tree} {P : Tree → Prop} [DecidablePred P]
    (hx : x.outcome.toOption.any (fun t => P t) = true) : ∃ t, x.outcome = .ok t ∧ P t :=
  exists_of_ok hx

namespace Trial

/-- A host with a course and what is beside it, run by who may give entries any group. -/
def host (course beside : List (String × Entry)) : Host :=
  { disk := .directory { mode := 0o755, gid := 0 } (("course", .directory { mode := 0o755, gid := 0 } course) :: beside)
    workingDirectory := [], groups := [("staff", 50)], caller := { mayChangeGroups := true, groups := [0] }
    zone := .utc, now := Policy.epoch.wall }

/-- Where the course is. -/
def root : Path := { root := .top, names := ["course"] }

/-- A clock of long ago. -/
def clock : Clock := { instant := Policy.epoch, utcOffset := 0 }

def file (mode : Mode) : Entry := .file { mode, gid := 0 } []

end Trial

end Tree

end Curfew
