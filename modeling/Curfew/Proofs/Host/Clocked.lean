import Curfew.Proofs.Host.Looking

/-! Hosts in other zones and at other times. What a host does to its disk does not depend on its clock. -/

namespace Curfew
namespace Host

/-- The host in another zone and at another time. -/
def clocked (h : Host) (zone : Offset) (now : WallTime) : Host := { h with zone, now }

variable {h : Host} {zone : Offset} {now : WallTime}

theorem setGroup_clocked (path : Path) (gid : Int) :
    (h.clocked zone now).setGroup path gid = (h.setGroup path gid).map (·.clocked zone now) := by
  have hlook : (h.clocked zone now).look path false = h.look path false := rfl
  have hmay : (h.clocked zone now).mayChangeGroup = h.mayChangeGroup := rfl
  unfold setGroup
  rw [hlook, hmay]
  rcases wantedGroup gid with fault | wanted
  · rfl
  · rcases h.look path false with fault | ⟨l, e⟩
    · rfl
    · simp only [bind, Except.bind]
      split <;> rfl

theorem setMode_clocked (path : Path) (mode : Mode) :
    (h.clocked zone now).setMode path mode = (h.setMode path mode).map (·.clocked zone now) := by
  have hlook : (h.clocked zone now).look path true = h.look path true := rfl
  unfold setMode
  rw [hlook]
  rcases h.look path true with fault | ⟨l, e⟩ <;> rfl

theorem chgrp_clocked (path : Path) (gid : Nat) :
    (h.clocked zone now).chgrp path gid = (h.chgrp path gid).map (·.clocked zone now) := by
  unfold chgrp
  rw [setGroup_clocked, asUnavailable_map]

theorem chmod_clocked (path : Path) (mode : Mode) :
    ((h.clocked zone now).chmod path mode).outcome = (h.chmod path mode).outcome.map (·.clocked zone now) := by
  have hlink : (h.clocked zone now).isLink path = h.isLink path := rfl
  unfold chmod
  rw [hlink]
  rcases h.isLink path with fault | isLink
  · rfl
  · cases isLink with
    | true => rfl
    | false =>
      show asUnavailable path ((h.clocked zone now).setMode path mode) = (asUnavailable path (h.setMode path mode)).map _
      rw [setMode_clocked, asUnavailable_map]

/-! ### Directories -/

theorem makeDirectory_clocked (h : Host) (p : Path) :
    (h.clocked zone now).makeDirectory p = (h.makeDirectory p).map (·.clocked zone now) := by
  have hresolve : (h.clocked zone now).resolve p false = h.resolve p false := rfl
  unfold makeDirectory
  rw [hresolve]
  rcases h.resolve p false with fault | (l | ⟨directory, name⟩) <;> rfl

theorem ensureDirectory_clocked (h : Host) (p : Path) :
    (h.clocked zone now).ensureDirectory p = (h.ensureDirectory p).map (·.clocked zone now) := by
  have hleads : (h.clocked zone now).leadsToDirectory p = h.leadsToDirectory p := rfl
  unfold ensureDirectory
  rw [makeDirectory_clocked, hleads]
  rcases h.makeDirectory p with fault | made
  · simp only [Except.map]
    split
    · rfl
    · rcases h.leadsToDirectory p with fault | (_ | _) <;> rfl
    · rfl
  · rfl

theorem makeDirectories_clocked (fuel : Nat) : ∀ (p : Path) (h : Host),
    makeDirectories fuel p (h.clocked zone now) = (makeDirectories fuel p h).map (·.clocked zone now) := by
  induction fuel with
  | zero => exact fun p h => ensureDirectory_clocked h p
  | succ fuel ih =>
    intro p h
    rw [makeDirectories, makeDirectories, ensureDirectory_clocked]
    rcases h.ensureDirectory p with fault | made
    · simp only [Except.map]
      split
      · split
        · rfl
        · rw [ih]
          rcases makeDirectories fuel p.parent h with fault | above
          · rfl
          · exact ensureDirectory_clocked above p
      · rfl
    · rfl

theorem makeParents_clocked (h : Host) (p : Path) :
    (h.clocked zone now).makeParents p = (h.makeParents p).map (·.clocked zone now) :=
  makeDirectories_clocked _ _ h

end Host

end Curfew
