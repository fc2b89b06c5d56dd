import Curfew.Proofs.Tree.Build
import Curfew.Proofs.Tree.Rebuild
import Curfew.Proofs.Tree.Runs

/-! Runs that follow one another. A build does not look at anything that a run changes, so one tree does on all
occasions what a tree that is built anew for each of them does. -/

namespace Curfew
namespace Tree

/-- When a tree is applied, and whether only to see what would change. -/
structure Occasion where
  clock : Clock
  isDryRun : Bool

/-- Applies a tree on one occasion after the other, whether a run stops or not. -/
def applyEach (t : Tree) : List Occasion → Host → List Applied
  | [], _ => []
  | o :: os, h =>
    let applied := t.apply h o.clock o.isDryRun
    applied :: t.applyEach os applied.run.host

/-- Builds the tree of a config on each occasion and applies it if there is one. -/
def applyRebuilt (config : Value) (root : Path) : List Occasion → Host → List (Except TreeFault Applied)
  | [], _ => []
  | o :: os, h =>
    match (build h config root).outcome with
    | .ok t =>
      let applied := t.apply h o.clock o.isDryRun
      .ok applied :: applyRebuilt config root os applied.run.host
    | .error fault => .error fault :: applyRebuilt config root os h

section
variable {config : Value} {root : Path} {h : Host} {t : Tree}

theorem applyRebuilt_of_built (os : List Occasion) : ∀ {h : Host}, (build h config root).outcome = .ok t →
    applyRebuilt config root os h = (t.applyEach os h).map .ok := by
  induction os with
  | nil => exact fun _ => rfl
  | cons o os ih =>
    intro h hb
    have frame : Progress.Frame t.managed h (t.apply h o.clock o.isDryRun).run.host := apply_frame
    -- The run leaves all that the build looked at, so the tree is built again.
    have hagain : (build (t.apply h o.clock o.isDryRun).run.host config root).outcome = .ok t := by
      rw [build_congr frame.toSameShape, hb]
    rw [applyRebuilt, hb]
    dsimp only
    rw [ih hagain, applyEach, List.map_cons]

theorem applyRebuilt_of_fault {fault : TreeFault} (hb : (build h config root).outcome = .error fault) (os : List Occasion) :
    applyRebuilt config root os h = os.map fun _ => .error fault := by
  induction os with
  | nil => rfl
  | cons o os ih =>
    rw [applyRebuilt, hb]
    dsimp only
    rw [ih, List.map_cons]

end

/-- Hosts that differ in modes and groups only give one tree, or one fault, with the same notices. So runs that each
build the tree anew come to what the runs of the first tree come to, with the same reports, faults and hosts, and where
no tree can be built the first time none can ever be. -/
theorem rebuilt_eq_reused (config : Value) (root : Path) :
    (∀ h h' : Host, h.SameShape h' → build h' config root = build h config root) ∧
      ∀ (h : Host) (os : List Occasion), applyRebuilt config root os h =
        match (build h config root).outcome with
        | .ok t => (t.applyEach os h).map .ok
        | .error fault => os.map fun _ => .error fault := by
  refine ⟨fun h h' same => build_congr same config root, fun h os => ?_⟩
  cases hb : (build h config root).outcome with
  | ok t => exact applyRebuilt_of_built os hb
  | error fault => exact applyRebuilt_of_fault hb os

namespace Repeated

/-- A course with a linked directory and an entry that is missing, and the same with other modes and groups. -/
def host (mode : Mode) (gid : Nat) : Host :=
  Trial.host [("data", .directory { mode, gid } [("notes", .file { mode, gid } [])]), ("link", .link gid "data")] []

/-- A config that copies permissions, so that each run changes them again, and reaches what is missing at last. -/
def config : Value :=
  .map [(.text "data", .map [(.text "mode", .text "u=g,g=o,o="), (.text "group", .text "staff")]),
    (.text "link", .map [(.text "ghost", .null)])]

/-- A dry run and two real ones. -/
def occasions : List Occasion := [⟨Trial.clock, true⟩, ⟨Trial.clock, false⟩, ⟨Trial.clock, false⟩]

end Repeated

theorem rebuilt_eq_reused_course : (Repeated.host 0o755 0).SameShape (Repeated.host 0o2640 50) ∧
    build (Repeated.host 0o2640 50) Repeated.config Trial.root = build (Repeated.host 0o755 0) Repeated.config Trial.root ∧
    ∃ t, (build (Repeated.host 0o755 0) Repeated.config Trial.root).outcome = .ok t ∧
      applyRebuilt Repeated.config Trial.root Repeated.occasions (Repeated.host 0o755 0) =
        (t.applyEach Repeated.occasions (Repeated.host 0o755 0)).map .ok ∧
      (t.applyEach Repeated.occasions (Repeated.host 0o755 0)).map (fun applied => applied.run.report.changes.map (·.newMode)) =
        [[0o550, 0o550], [0o550, 0o550], [0o500, 0o500]] := by
  obtain ⟨hsame, hreuse⟩ := rebuilt_eq_reused Repeated.config Trial.root
  have same : (Repeated.host 0o755 0).SameShape (Repeated.host 0o2640 50) := ⟨rfl, rfl⟩
  obtain ⟨t, ht, hmodes⟩ : ∃ t, (build (Repeated.host 0o755 0) Repeated.config Trial.root).outcome = .ok t ∧
      (t.applyEach Repeated.occasions (Repeated.host 0o755 0)).map (fun applied => applied.run.report.changes.map (·.newMode)) =
        [[0o550, 0o550], [0o550, 0o550], [0o500, 0o500]] := exists_of_built (by decide +kernel)
  have hruns := hreuse (Repeated.host 0o755 0) Repeated.occasions
  rw [ht] at hruns
  exact ⟨same, hsame _ _ same, t, ht, hruns, hmodes⟩

end Tree
end Curfew
