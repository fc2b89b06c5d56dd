import Curfew.Proofs.Mode.Removal
import Curfew.Proofs.Tree.Expressions
import Curfew.Proofs.Tree.Runs

/-! Locking down. Where all expressions of a config only take permissions away, no step of a run gives an entry a permission
bit that it had not, whatever groups are set and however paths lead to one entry; so no run does. -/

namespace Curfew

/-! ### Disks with no bit more -/

/-- No entry is new or gone, of another kind, or has a permission bit more than before. -/
def Entry.Tightens (before after : Entry) : Prop :=
  ∀ l, before.infoAt l = none ∧ after.infoAt l = none ∨
    ∃ i j, before.infoAt l = some i ∧ after.infoAt l = some j ∧ j.kind = i.kind ∧ j.mode.Within i.mode

namespace Entry.Tightens

theorem refl (disk : Entry) : disk.Tightens disk := by
  intro l
  cases hl : disk.infoAt l with
  | none => exact Or.inl ⟨rfl, rfl⟩
  | some i => exact Or.inr ⟨i, i, rfl, rfl, rfl, .refl _⟩

theorem trans {disk disk' disk'' : Entry} (h₁ : disk.Tightens disk') (h₂ : disk'.Tightens disk'') : disk.Tightens disk'' := by
  intro l
  rcases h₁ l with ⟨hnone, hnone'⟩ | ⟨i, j, hi, hj, hkind, hmode⟩
  · rcases h₂ l with ⟨-, hnone''⟩ | ⟨j, k, hj, -⟩
    · exact Or.inl ⟨hnone, hnone''⟩
    · cases hnone'.symm.trans hj
  · rcases h₂ l with ⟨hnone, -⟩ | ⟨j', k, hj', hk, hkind', hmode'⟩
    · cases hj.symm.trans hnone
    · cases hj.symm.trans hj'
      exact Or.inr ⟨i, k, hi, hk, hkind'.trans hkind, hmode'.trans hmode⟩

end Entry.Tightens

theorem Host.Sets.tightens {h h' : Host} {l : Location} {i j : EntryInfo} (hs : Host.Sets h h' l j)
    (hi : h.disk.infoAt l = some i) (hkind : j.kind = i.kind) (hmode : j.mode.Within i.mode) : h.disk.Tightens h'.disk := by
  intro k
  by_cases hk : k = l
  · subst hk
    exact Or.inr ⟨i, j, hi, by rw [hs.infoAt, if_pos rfl], hkind, hmode⟩
  · rw [hs.infoAt, if_neg hk]
    exact Entry.Tightens.refl h.disk k

/-! ### Plans -/

namespace Plan

theorem grouped_within (p : Plan) : p.grouped.mode.Within p.old.mode := by
  unfold grouped EntryInfo.chgrp
  split
  · exact .refl _
  · dsimp only
    split
    · exact Entry.modeAfterChgrp_within p.old.mode
    · exact .refl _

/-- Setting a mode may bring back bits that setting the group took away, but no others. -/
theorem left_within {p : Plan} (h : p.mode.Within p.old.mode) : p.left.mode.Within p.old.mode := by
  unfold left
  split
  · exact p.grouped_within
  · exact h

end Plan

/-- Both expressions of all policies of a node only take permissions away. -/
def Standing.OnlyRemoves (s : Standing) : Prop := ∀ p ∈ s.policies, ∀ isDirectory, Mode.OnlyRemoves (p.modeFor isDirectory)

theorem Standing.wantedMode_within {s : Standing} (hs : s.OnlyRemoves) {clock : Clock} {i : EntryInfo} {mode : Mode}
    (hm : s.wantedMode clock i = .ok mode) : mode.Within i.mode := by
  unfold wantedMode at hm
  split at hm
  · cases hm
    exact .refl _
  · split at hm
    · cases hm
    · cases hm
      exact .refl _
    · rename_i p hp
      exact Mode.compile_within (hs p (mem_of_resolve hp) _) (mapError_eq_ok.mp hm)

namespace Tree

/-! ### Runs -/

namespace Progress
variable {clock : Clock} {s : Standing}

theorem step_tightens (hs : s.OnlyRemoves) (x : Progress) : x.host.disk.Tightens (x.step clock s).2.host.disk := by
  cases hx : x.step clock s with
  | mk fault x' =>
    cases fault with
    | some fault =>
      rw [(step_fault hx).2]
      exact .refl _
    | none =>
      obtain ⟨p, l, hp, hl, hsets, -⟩ := step_ok hx
      have hwithin : p.mode.Within p.old.mode := Standing.wantedMode_within hs (Host.plan_eq_ok.mp hp).2.1
      refine hsets.tightens (Host.infoAt_of_plan hp hl) ?_ ?_
      · split
        · rfl
        · exact p.left_kind
      · split
        · exact .refl _
        · exact p.left_within hwithin

end Progress

/-- A run of a config whose expressions only take permissions away gives no entry anywhere a permission bit, be it
stopped by a fault or not. Still it does its work: if it ends without a fault, is not dry and its nodes lead to locations
of their own, each entry has what the plan of its node leaves. -/
theorem lockdown_never_grants {h₀ : Host} {config : Value} {root : Path} {t : Tree}
    (hb : (build h₀ config root).outcome = .ok t) (hr : ∀ text ∈ config.expressions, Mode.OnlyRemoves text)
    (h : Host) (clock : Clock) (isDryRun : Bool) :
    h.disk.Tightens (t.apply h clock isDryRun).run.host.disk ∧
      ((t.apply h clock isDryRun).fault = none → isDryRun = false → Progress.Apart h t.managed →
        ∀ s ∈ t.managed, ∃ p l, h.plan clock s = .ok p ∧ h.locate s.path false = .ok l ∧
          (t.apply h clock isDryRun).run.host.disk.infoAt l = some p.left) := by
  have hremoves : ∀ s ∈ t.managed, s.OnlyRemoves := by
    intro s hs p hp isDirectory
    have hwalk : s ∈ t.walk := by
      rw [walk_eq]
      exact List.mem_append_left _ hs
    exact hr _ (modeFor_mem_expressions hb hwalk hp isDirectory)
  constructor
  · rw [apply_host]
    exact Progress.steps_related (R := fun h h' => h.disk.Tightens h'.disk) (fun h => .refl h.disk) Entry.Tightens.trans
      (fun s hs x => Progress.step_tightens (hremoves s hs) x) ⟨h, .empty isDryRun⟩
  · rintro hok rfl hapart
    exact (apply_ok hapart hok).1

/-! ### A tool that is reached twice -/

namespace Twofold

/-- A directory with a tool that runs as its owner. -/
def tools : Entry := .directory { mode := 0o755, gid := 0 } [("tool", Trial.file 0o4775)]

/-- A course with the tools and a link to them. -/
def linked : Host := Trial.host [("a", tools), ("again", .link 0 "a")] []

/-- A course with the tools twice. -/
def copied : Host := Trial.host [("a", tools), ("again", tools)] []

def config : Value :=
  .map [(.text "group", .text "staff"), (.text "mode", .map [(.text "dir", .text "o-rwx"), (.text "file", .text "g-w,o-x")]),
    (.text "again", .map [(.text "tool", .null)])]

end Twofold

theorem lockdown_never_grants_course :
    (∃ t, (build Twofold.linked Twofold.config Trial.root).outcome = .ok t ∧
      Twofold.linked.disk.Tightens (t.apply Twofold.linked Trial.clock false).run.host.disk ∧
      (t.apply Twofold.linked Trial.clock false).run.host.disk.infoAt ["course", "a", "tool"] =
        some { mode := 0o4754, gid := 50, kind := .file }) ∧
    ∃ t, (build Twofold.copied Twofold.config Trial.root).outcome = .ok t ∧
      ∀ s ∈ t.managed, ∃ p l, Twofold.copied.plan Trial.clock s = .ok p ∧ Twofold.copied.locate s.path false = .ok l ∧
        (t.apply Twofold.copied Trial.clock false).run.host.disk.infoAt l = some p.left := by
  have hremoves : ∀ text ∈ Twofold.config.expressions, Mode.OnlyRemoves text := by decide +kernel
  constructor
  · obtain ⟨t, ht, hleft⟩ : ∃ t, (build Twofold.linked Twofold.config Trial.root).outcome = .ok t ∧
        (t.apply Twofold.linked Trial.clock false).run.host.disk.infoAt ["course", "a", "tool"] =
          some { mode := 0o4754, gid := 50, kind := .file } := exists_of_built (by decide +kernel)
    exact ⟨t, ht, (lockdown_never_grants ht hremoves Twofold.linked Trial.clock false).1, hleft⟩
  · obtain ⟨t, ht, hok, hapart⟩ : ∃ t, (build Twofold.copied Twofold.config Trial.root).outcome = .ok t ∧
        (t.apply Twofold.copied Trial.clock false).fault = none ∧ Progress.Apart Twofold.copied t.managed :=
      exists_of_built (by decide +kernel)
    exact ⟨t, ht, (lockdown_never_grants ht hremoves Twofold.copied Trial.clock false).2 hok rfl hapart⟩

end Tree

end Curfew
