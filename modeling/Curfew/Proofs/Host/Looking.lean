import Curfew.Disk.Glob
import Curfew.Proofs.Host.Reach

/-! Looking without seeing modes and groups. What is there, what a directory holds and which paths a pattern stands
for are read off the shape of the disk. -/

namespace Curfew
namespace Entry

theorem isDirectoryEntry_shape (e : Entry) : Host.isDirectoryEntry e.shape = Host.isDirectoryEntry e := by
  cases e <;> rfl

theorem isLinkEntry_shape (e : Entry) : Host.isLinkEntry e.shape = Host.isLinkEntry e := by
  cases e <;> rfl

theorem shapes_eq_map : ∀ children, shapes children = children.map fun child => (child.1, child.2.shape)
  | [] => rfl
  | (name, entry) :: rest => by rw [shapes, List.map_cons, shapes_eq_map rest]

mutual

theorem descendants_shape : ∀ e : Entry, e.shape.descendants = e.descendants.map fun found => (found.1, found.2.shape)
  | .file _ _ => rfl
  | .directory _ children => allDescendants_shapes children
  | .link _ _ => rfl

theorem allDescendants_shapes : ∀ children : List (String × Entry),
    allDescendants (shapes children) = (allDescendants children).map fun found => (found.1, found.2.shape)
  | [] => rfl
  | (name, entry) :: rest => by
    rw [shapes, allDescendants, allDescendants, descendants_shape entry, allDescendants_shapes rest]
    simp

end

end Entry

namespace Host

/-- The host with nothing but the shape of its disk. -/
def shape (h : Host) : Host := { h with disk := h.disk.shape }

theorem SameShape.shape_eq {h h' : Host} (s : SameShape h h') : h'.shape = h.shape := by
  rw [s.rest]
  exact congrArg (fun disk => ({ h with disk } : Host)) s.shape

variable (h : Host)

theorem locate_shape (path : Path) (follow : Bool) : h.shape.locate path follow = h.locate path follow := by
  unfold locate resolve Resolved.ofPath
  rw [show h.shape.disk = h.disk.shape from rfl, Resolved.ofNames_shape]
  rfl

theorem look_shape (path : Path) (follow : Bool) :
    h.shape.look path follow = (h.look path follow).map fun found => (found.1, found.2.shape) := by
  unfold look
  rw [locate_shape, show h.shape.disk = h.disk.shape from rfl]
  cases h.locate path follow with
  | error fault => rfl
  | ok l =>
    simp only [bind, Except.bind, Entry.get?_shape]
    cases h.disk.get? l <;> rfl

theorem test_shape {p : Entry → Bool} (hp : ∀ e, p e.shape = p e) (path : Path) (follow : Bool) :
    h.shape.test path follow p = h.test path follow p := by
  unfold test
  rw [look_shape]
  rcases h.look path follow with fault | ⟨l, e⟩
  · rfl
  · exact congrArg Except.ok (hp e)

theorem leadsToDirectory_shape (path : Path) : h.shape.leadsToDirectory path = h.leadsToDirectory path :=
  h.test_shape Entry.isDirectoryEntry_shape path true

theorem isLink_shape (path : Path) : h.shape.isLink path = h.isLink path :=
  h.test_shape Entry.isLinkEntry_shape path false

theorem isDirectory_shape (path : Path) : h.shape.isDirectory path = h.isDirectory path := by
  unfold isDirectory
  rw [leadsToDirectory_shape, isLink_shape]

theorem children_shape (path : Path) : h.shape.children path = (h.children path).map Entry.shapes := by
  unfold children
  rw [look_shape]
  rcases h.look path true with fault | ⟨l, _ | _ | _⟩ <;> rfl

theorem asUnavailable_map {α β : Type} (f : α → β) (path : Path) (x : Except DiskFault α) :
    asUnavailable path (x.map f) = (asUnavailable path x).map f := by
  unfold asUnavailable
  rcases x with fault | a
  · cases fault with
    | system error path => cases error <;> rfl
    | _ => rfl
  · rfl

/-! ### Patterns -/

theorem isThere_shape (path : Path) : h.shape.isThere path = h.isThere path := by
  unfold isThere
  rw [look_shape]
  cases h.look path false <;> rfl

theorem matchingNames_shape (directory : Path) (pattern : String) (directoriesOnly : Bool) :
    h.shape.matchingNames directory pattern directoriesOnly = h.matchingNames directory pattern directoriesOnly := by
  have enters : h.shape.entersDirectory = h.entersDirectory := by
    funext path
    unfold entersDirectory
    rw [leadsToDirectory_shape]
  unfold matchingNames
  rw [children_shape, enters]
  cases h.children directory with
  | error fault => cases fault <;> rfl
  | ok children =>
    have names : (Entry.shapes children).map (·.1) = children.map (·.1) := by
      rw [Entry.shapes_eq_map, List.map_map]
      rfl
    simp only [Except.map, names]

theorem expandNames_shape (root : Root) : ∀ (names : List String) (directoriesOnly : Bool),
    h.shape.expandNames root directoriesOnly names = h.expandNames root directoriesOnly names
  | [], _ => rfl
  | name :: before, directoriesOnly => by
    have names : h.shape.namesFor = h.namesFor := by
      funext directory name directoriesOnly
      unfold namesFor
      rw [matchingNames_shape, isThere_shape]
    rw [expandNames, expandNames, expandNames_shape root before, names]

theorem subtree_shape (target : Path) : h.shape.subtree target = h.subtree target := by
  have opens : ∀ (path : Path) (e : Entry), checkOpens path e.shape = checkOpens path e := by
    intro path e
    cases e <;> rfl
  unfold subtree
  rw [look_shape]
  rcases h.look target true with fault | ⟨l, e⟩
  · rfl
  · simp only [Except.map, bind, Except.bind, Entry.descendants_shape, List.map_map, Function.comp_def,
      List.forM_eq_forM, List.forM_map, opens]

theorem glob_shape (base : Path) (pattern : String) : h.shape.glob base pattern = h.glob base pattern := by
  have expand : h.shape.expand = h.expand := by
    funext target
    unfold expand
    rw [expandNames_shape, isThere_shape]
  unfold glob
  rw [expand]
  simp only [leadsToDirectory_shape, subtree_shape]
  rfl

end Host

end Curfew
