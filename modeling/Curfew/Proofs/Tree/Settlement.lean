import Curfew.Proofs.Tree.Located

/-! What a finished run leaves. Every entry that is handled has the mode and the group that were worked out from
what it had before the run, but for two cases: a file of which only the group is to change keeps no bit that
setting a group clears, and the number that stands for no group sets none. -/

namespace Curfew

namespace Plan

/-- Setting the group clears a bit of the mode that is to stay: of a file, where the mode is not set. -/
def ClearsBit (p : Plan) : Prop :=
  p.old.kind = .file ∧ p.gid ≠ p.old.gid ∧ p.mode = p.old.mode ∧ Entry.modeAfterChgrp p.old.mode ≠ p.old.mode

/-- The group that is to be set is no group. -/
def SetsNone (p : Plan) : Prop := p.gid ≠ p.old.gid ∧ (p.gid : Int) = Host.noGroup

/-- What is left is what is wanted in all other cases. -/
theorem left_eq_wanted_iff (p : Plan) : p.left = p.wanted ↔ ¬p.ClearsBit ∧ ¬p.SetsNone := by
  obtain ⟨⟨mode, gid, kind⟩, wantedMode, wantedGid⟩ := p
  unfold left grouped wanted ClearsBit SetsNone EntryInfo.chgrp
  by_cases hg : wantedGid = gid
  · by_cases hm : wantedMode = mode <;> simp [hg, hm]
  · by_cases hm : wantedMode = mode <;> by_cases hk : kind = .file <;> by_cases hn : (wantedGid : Int) = Host.noGroup <;>
      simp [hg, hm, hk, hn, eq_comm]

theorem left_eq_wanted_iff_shown (p : Plan) :
    p.left = p.wanted ↔ (p.mode.toNat : Int) = p.left.mode.toNat ∧ (p.gid : Int) = p.left.gid := by
  rcases hl : p.left with ⟨mode, gid, kind⟩
  have hkind : kind = p.old.kind := by simpa only [hl] using p.left_kind
  simp only [wanted, EntryInfo.mk.injEq, hkind, and_true, Int.natCast_inj, BitVec.toNat_inj]
  exact and_congr eq_comm eq_comm

end Plan

namespace Tree

section
variable {h₀ h : Host} {config : Value} {root : Path} {t : Tree} {clock : Clock}

/-- After a run without a fault, where no link stands above a node, each entry that is handled has what its plan
leaves, which is what the plan wants unless a bit is cleared or no group is set; and each change that is reported is
that of a node and tells what its plan wants. -/
theorem settled_of_unlinked (hd : h₀.disk.WellFormed) (hb : (build h₀ config root).outcome = .ok t)
    (hu : ∀ s ∈ t.managed, h.Unlinked s.path) (hok : (t.apply h clock false).fault = none) :
    (∀ s ∈ t.managed, ∃ p, h.plan clock s = .ok p ∧ (t.apply h clock false).run.host.stat s.path = .ok p.left ∧
      (p.left = p.wanted ↔ ¬p.ClearsBit ∧ ¬p.SetsNone)) ∧
    (t.apply h clock false).run.report.changes = t.managed.filterMap (h.change? clock false) ∧
    ∀ c ∈ (t.apply h clock false).run.report.changes, ∃ s ∈ t.managed, ∃ p i, h.plan clock s = .ok p ∧
      c.path = s.path ∧ (t.apply h clock false).run.host.stat c.path = .ok i ∧
      (c.newMode = i.mode.toNat ∧ c.newGid = i.gid ↔ ¬p.ClearsBit ∧ ¬p.SetsNone) := by
  obtain ⟨hall, hreport⟩ := apply_ok (apart_managed hd hb hu) hok
  have hleft : ∀ s ∈ t.managed, ∃ p, h.plan clock s = .ok p ∧
      (t.apply h clock false).run.host.stat s.path = .ok p.left := by
    intro s hs
    obtain ⟨p, l, hp, hl, hinfo⟩ := hall s hs
    exact ⟨p, hp, Host.stat_eq_ok.mpr ⟨l, (apply_frame.locate s.path false).trans hl, hinfo⟩⟩
  refine ⟨fun s hs => ?_, by rw [hreport], fun c hc => ?_⟩
  · obtain ⟨p, hp, hstat⟩ := hleft s hs
    exact ⟨p, hp, hstat, p.left_eq_wanted_iff⟩
  · rw [hreport] at hc
    obtain ⟨s, hs, hc⟩ := List.mem_filterMap.mp hc
    obtain ⟨p, hp, hstat⟩ := hleft s hs
    simp only [Host.change?, hp, Except.toOption, Option.bind_some, Plan.change?] at hc
    split at hc
    · cases hc
    · cases hc
      refine ⟨s, hs, p, p.left, hp, rfl, hstat, ?_⟩
      rw [← p.left_eq_wanted_iff, p.left_eq_wanted_iff_shown]

end

/-! ### A cleared bit -/

namespace GroupOnly

/-- A course with a file that runs as its owner. -/
def host : Host := Trial.host [("tool", Trial.file 0o4755)] []

/-- A config that sets the group alone. -/
def config : Value := .map [(.text "group", .text "staff")]

end GroupOnly

theorem settled_of_unlinked_course : ∃ t, (build GroupOnly.host GroupOnly.config Trial.root).outcome = .ok t ∧
    ∀ s ∈ t.managed, ∃ p, GroupOnly.host.plan Trial.clock s = .ok p ∧
      (t.apply GroupOnly.host Trial.clock false).run.host.stat s.path = .ok p.left := by
  obtain ⟨t, ht, hu, hok⟩ : ∃ t, (build GroupOnly.host GroupOnly.config Trial.root).outcome = .ok t ∧
      (∀ s ∈ t.managed, GroupOnly.host.Unlinked s.path) ∧ (t.apply GroupOnly.host Trial.clock false).fault = none :=
    exists_of_built (by decide +kernel)
  refine ⟨t, ht, fun s hs => ?_⟩
  obtain ⟨p, hp, hstat, -⟩ := (settled_of_unlinked (by decide) ht hu hok).1 s hs
  exact ⟨p, hp, hstat⟩

/-- The mode of the file should stay, is reported to stay, and does not: its set-user bit is gone. -/
theorem tool_loses_bit : ∃ t, (build GroupOnly.host GroupOnly.config Trial.root).outcome = .ok t ∧
    (∀ s ∈ t.managed, GroupOnly.host.Unlinked s.path) ∧ (t.apply GroupOnly.host Trial.clock false).fault = none ∧
    (t.apply GroupOnly.host Trial.clock false).run.report.changes.map (fun c => (c.oldMode, c.newMode, c.newGid)) =
      [(0o4755, 0o4755, 50)] ∧
    (t.apply GroupOnly.host Trial.clock false).run.host.disk.infoAt ["course", "tool"] =
      some { mode := 0o755, gid := 50, kind := .file } :=
  exists_of_built (by decide +kernel)

end Tree

end Curfew
