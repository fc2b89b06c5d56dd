import Curfew.Report
import Curfew.Mode.Compile
import Curfew.Tree.Basic

/-!
Applying a tree to the disk.

Children come before their parents, so that a directory is only tightened after all below it was
handled. The root is counted and never changed. A run stops at its first fault, and what was changed
before it stays.
-/

namespace Curfew.Tree

/-- A run under way: the host as it is by now, what was reported, and the notices so far. -/
structure Run where
  host : Host
  report : Report
  notices : List Notice

/-- Steps of a run that may stop with a fault and keep what was done. -/
abbrev Running := EStateM TreeFault Run

namespace Running

def tell (level : Level) (text : String) : Running Unit :=
  modify fun r => { r with notices := r.notices ++ [⟨level, .tree, text⟩] }

def ofExcept {α : Type} : Except TreeFault α → Running α
  | .ok a => return a
  | .error fault => throw fault

def ofDisk {α : Type} (x : Except DiskFault α) : Running α := ofExcept (x.mapError .disk)

/-- Sets the group of the entry at a path. -/
def chgrp (path : Path) (gid : Nat) : Running Unit := do
  let r ← get
  set { r with host := ← ofDisk (r.host.chgrp path gid) }

/-- Sets the mode of the entry at a path. -/
def chmod (path : Path) (mode : Mode) : Running Unit := do
  let r ← get
  let told := r.host.chmod path mode
  set { r with notices := r.notices ++ told.notices }
  let host ← ofDisk told.outcome
  modify fun r => { r with host }

def visit : Running Unit :=
  modify fun r => { r with report := { r.report with visited := r.report.visited + 1 } }

def record (c : Change) : Running Unit :=
  modify fun r => { r with report := { r.report with changes := r.report.changes ++ [c] } }

end Running

/-- What is said of the policy that governs a node. -/
def governs (s : Standing) (p : Policy) (expression : String) : String :=
  let excluded := if s.isExcluded then "True" else "False"
  s!"{s.path}: policy dated {p.timestamp.text} governs (excluded={excluded}) -> " ++
    Text.quote expression

/-- The mode that a node should have, given what its entry has. -/
def resolveMode (clock : Clock) (s : Standing) (i : EntryInfo) : Running Mode := do
  match ← Running.ofExcept (s.resolve clock) with
  | none => return i.mode
  | some p =>
    let expression := p.modeFor i.isDirectory
    Running.tell .debug (governs s p expression)
    Running.ofExcept ((Mode.compile expression i.mode i.isDirectory).mapError .expression)

/-- Brings the entry of a node to a mode and a group. Setting the group clears bits of the mode, so
the group goes first. -/
def settle (s : Standing) (old : EntryInfo) (mode : Mode) (gid : Nat) : Running Unit := do
  let isDryRun := (← get).report.isDryRun
  if gid ≠ old.gid then
    Running.tell .info s!"chgrp {s.group} {s.path}"
    if !isDryRun then Running.chgrp s.path gid
  if mode ≠ old.mode then
    Running.tell .info s!"chmod {mode.text} {s.path}"
    if !isDryRun then Running.chmod s.path mode
  Running.record
    { path := s.path, oldMode := old.mode.toNat, newMode := mode.toNat, oldGid := old.gid
      newGid := gid, group := s.group, isDryRun }

/-- Handles the entry of one node below the root. -/
def applyEntry (clock : Clock) (s : Standing) : Running Unit := do
  let old ← Running.ofDisk ((← get).host.stat s.path)
  let mode ← if old.isLink then pure old.mode else resolveMode clock s old
  let gid ← if s.group.isEmpty then pure old.gid else Running.ofDisk ((← get).host.groupId s.group)
  if mode = old.mode ∧ gid = old.gid then
    Running.tell .debug s!"{s.path}: already {mode.text}, unchanged"
  else settle s old mode gid

mutual

/-- Handles all nodes of a subtree whose top is not the root. -/
def applyBelow (clock : Clock) : Tree → Running Unit
  | .node s _ declared discovered => do
    applyAll clock declared
    applyAll clock discovered
    Running.visit
    applyEntry clock s

def applyAll (clock : Clock) : List Tree → Running Unit
  | [] => return
  | t :: ts => do
    applyBelow clock t
    applyAll clock ts

end

/-- What is said of a finished run. -/
def finished (path : Path) (r : Report) : String :=
  let suffix := if r.isDryRun then " (dry run)" else ""
  s!"Applied policies under {path}: {r.visited} nodes visited, {r.changes.length} changed{suffix}"

/-- Handles all nodes of a tree; its root is counted only. -/
def applyRoot (clock : Clock) (t : Tree) : Running Unit := do
  applyAll clock t.declared
  applyAll clock t.discovered
  Running.visit
  Running.tell .info (finished t.path (← get).report)

/-- The run at its start. -/
def Run.start (h : Host) (isDryRun : Bool) : Run :=
  { host := h, report := .empty isDryRun, notices := [] }

/-- What came of a run: the fault that stopped it, if any, and all it did. -/
structure Applied where
  fault : Option TreeFault
  run : Run

/-- Applies a tree to a host. -/
def apply (t : Tree) (h : Host) (clock : Clock) (isDryRun : Bool) : Applied :=
  match (applyRoot clock t).run (.start h isDryRun) with
  | .ok _ run => ⟨none, run⟩
  | .error fault run => ⟨some fault, run⟩

end Curfew.Tree
