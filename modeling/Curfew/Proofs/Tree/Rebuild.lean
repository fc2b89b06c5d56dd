import Curfew.Proofs.Host.Looking
import Curfew.Tree.Build

/-! Building a tree again. A tree is built from the shape of the disk alone, so changes to modes and groups do not
bear on it. -/

namespace Curfew

theorem Told.ofExcept_map_bind {ε ε' α β γ : Type} (x : Except ε α) (f : α → β) (g : ε → ε') (k : β → Told ε' γ) :
    (Told.ofExcept (x.map f)).mapFault g >>= k = (Told.ofExcept x).mapFault g >>= fun a => k (f a) := by
  cases x <;> rfl

namespace Tree

mutual

theorem ofEntry_shape : ∀ (s : Standing) (e : Entry), ofEntry s e.shape = ofEntry s e
  | _, .file _ _ => by simp [Entry.shape, ofEntry]
  | s, .directory _ children => by rw [Entry.shape, ofEntry, ofEntry, ofChildren_shapes s children]
  | _, .link _ _ => by simp [Entry.shape, ofEntry]

theorem ofChildren_shapes : ∀ (s : Standing) (children : List (String × Entry)),
    ofChildren s (Entry.shapes children) = ofChildren s children
  | _, [] => rfl
  | s, (name, entry) :: rest => by
    rw [Entry.shapes, ofChildren, ofChildren, ofEntry_shape, ofChildren_shapes s rest]

end

variable (h : Host)

theorem checkEntries_shape (path : Path) (children : List (String × Entry)) :
    checkEntries h.shape path (Entry.shapes children) = checkEntries h path children := by
  unfold checkEntries
  simp only [Entry.allDescendants_shapes, List.forM_eq_forM, List.forM_map, Host.isDirectory_shape]

theorem undeclared_shape (path : Path) (declared : List String) :
    undeclared h.shape path declared = (undeclared h path declared).map Entry.shapes := by
  have kept : ∀ children, (Entry.shapes children).filter (fun child => !declared.contains child.1) =
      Entry.shapes (children.filter fun child => !declared.contains child.1) := by
    intro children
    rw [Entry.shapes_eq_map, Entry.shapes_eq_map, List.filter_map]
    rfl
  unfold undeclared
  rw [Host.isDirectory_shape, Host.children_shape, Host.asUnavailable_map]
  rcases h.isDirectory path with fault | _ | _
  · rfl
  · rfl
  · simp only [bind, Except.bind, ↓reduceIte]
    rcases Host.asUnavailable path (h.children path) with fault | children
    · rfl
    · simp only [Except.map, kept, checkEntries_shape]
      rcases checkEntries h path (children.filter fun child => !declared.contains child.1) with fault | _ <;> rfl

theorem expandAll_shape (path : Path) : ∀ (patterns : List String) (found : List Path),
    expandAll h.shape path patterns found = expandAll h path patterns found
  | [], _ => rfl
  | pattern :: patterns, found => by
    rw [expandAll, expandAll, Host.glob_shape]
    simp only [expandAll_shape path patterns]

theorem derive_shape (path : Path) (settings : Settings) (parent : Standing) :
    derive h.shape path settings parent = derive h path settings parent := by
  unfold derive
  simp only [expandAll_shape]

mutual

theorem ofOutline_shape : ∀ (path : Path) (parent : Standing) (o : Outline),
    ofOutline h.shape path parent o = ofOutline h path parent o
  | _, _, .refused _ => rfl
  | path, parent, .node source settings children => by
    have declared : ∀ s, ofDeclared h.shape s children = ofDeclared h s children := fun s =>
      ofDeclared_shape s children
    rw [ofOutline, ofOutline, derive_shape, undeclared_shape]
    simp only [declared, Told.ofExcept_map_bind, ofChildren_shapes]

theorem ofDeclared_shape : ∀ (s : Standing) (children : List (String × Outline)),
    ofDeclared h.shape s children = ofDeclared h s children
  | _, [] => rfl
  | s, (name, child) :: rest => by
    rw [ofDeclared, ofDeclared, ofOutline_shape (s.path.child name) s child, ofDeclared_shape s rest]

end

/-- Hosts of one shape give the same tree, or the same fault, with the same notices. -/
theorem build_congr {h h' : Host} (same : h.SameShape h') (config : Value) (root : Path) :
    build h' config root = build h config root := by
  have shape : ∀ h : Host, build h.shape config root = build h config root := by
    intro h
    exact ofOutline_shape h (h.absolute root) (.outermost (h.absolute root)) (Outline.ofValue config)
  rw [← shape h', same.shape_eq, shape]

end Tree

end Curfew
