import Curfew.Config.Document
import Curfew.Proofs.Mode.Reading
import Curfew.Proofs.Tree.Agreement
import Curfew.Proofs.Tree.DryRun
import Curfew.Proofs.Tree.Expressions

/-! Runs that an expression stops. Expressions are read only when the node that they are for is handled, so a config that is
accepted may hold one that cannot be read, and then what was done for the nodes before that node stays. -/

namespace Curfew

/-! ### Faults of expressions -/

/-- An expression that cannot be read is one of the policy that governs the node. -/
theorem Standing.unreadable_of_wantedMode {s : Standing} {clock : Clock} {i : EntryInfo} {e : InvalidExpression}
    (hm : s.wantedMode clock i = .error (.expression e)) :
    ∃ p, s.resolve clock = .ok (some p) ∧ Mode.read (p.modeFor i.isDirectory) = .error e := by
  unfold wantedMode at hm
  split at hm
  · cases hm
  · split at hm
    · rename_i fault hr
      cases hm
      -- Resolving a policy reads no expression.
      unfold resolve at hr
      split at hr
      · cases hr
      · split at hr
        · cases hr
        · split at hr <;> cases hr
    · cases hm
    · rename_i p hr
      cases hc : Mode.compile (p.modeFor i.isDirectory) i.mode i.isDirectory with
      | ok mode =>
        rw [hc] at hm
        cases hm
      | error refused =>
        rw [hc] at hm
        cases hm
        exact ⟨p, hr, Mode.compile_eq_error.mp hc⟩

/-- A node whose handling stops at an expression is governed by a policy with that expression. -/
theorem Host.unreadable_of_handle {h : Host} {clock : Clock} {isDryRun : Bool} {s : Standing} {e : InvalidExpression}
    (hh : h.handle clock isDryRun s = .error (.expression e)) :
    ∃ p isDirectory, s.resolve clock = .ok (some p) ∧ Mode.read (p.modeFor isDirectory) = .error e := by
  unfold handle at hh
  split at hh
  · rename_i fault hp
    cases hh
    unfold plan at hp
    split at hp
    · cases hp
    · rename_i old hold
      split at hp
      · rename_i fault hm
        cases hp
        obtain ⟨p, hr, hread⟩ := Standing.unreadable_of_wantedMode hm
        exact ⟨p, old.isDirectory, hr, hread⟩
      · split at hp
        · rename_i fault hg
          cases hp
          -- Looking up the group reads no expression.
          unfold wantedGid at hg
          split at hg
          · cases hg
          · cases hgroup : h.groupId s.group with
            | ok gid =>
              rw [hgroup] at hg
              cases hg
            | error fault =>
              rw [hgroup] at hg
              cases hg
        · cases hp
  · unfold perform at hh
    split at hh
    · cases hh
    · split at hh
      · cases hh
      · split at hh <;> cases hh

namespace Tree

namespace Progress
variable {clock : Clock}

/-! ### Runs that are stopped -/

/-- A run that is stopped has done what the nodes before the one that stops it ask for. -/
theorem steps_stopped (ss : List Standing) : ∀ {x x' : Progress} {fault : TreeFault}, steps clock ss x = (some fault, x') →
    ∃ before s after, ss = before ++ s :: after ∧ (steps clock before x).1 = none ∧
      x'.host = (steps clock before x).2.host ∧
      x'.host.handle clock (steps clock before x).2.report.isDryRun s = .error fault := by
  induction ss with
  | nil => exact fun hx => by cases hx
  | cons s ss ih =>
    intro x x' fault hx
    rw [steps_cons] at hx
    cases hs : x.step clock s with
    | mk stopped x₁ =>
      rw [hs] at hx
      cases stopped with
      | some fault' =>
        cases hx
        obtain ⟨hh, hhost⟩ := step_fault hs
        exact ⟨[], s, ss, rfl, rfl, hhost, by rw [hhost]; exact hh⟩
      | none =>
        obtain ⟨before, s', after, rfl, hok, hhost, hh⟩ := ih hx
        have hcons : steps clock (s :: before) x = steps clock before x₁ := by rw [steps_cons, hs]
        exact ⟨s :: before, s', after, rfl, by rw [hcons]; exact hok, by rw [hcons]; exact hhost, by rw [hcons]; exact hh⟩

/-- A run over nodes with locations of their own leaves all as it was just if it is dry or no plan leaves anything else. -/
theorem steps_unchanged_iff {ss : List Standing} {x : Progress} (hapart : Apart x.host ss) (hok : (steps clock ss x).1 = none) :
    (∀ l, (steps clock ss x).2.host.disk.infoAt l = x.host.disk.infoAt l) ↔
      x.report.isDryRun = true ∨ ∀ s ∈ ss, ∀ p, x.host.plan clock s = .ok p → p.left = p.old := by
  obtain ⟨hall, -⟩ := steps_ok ss x hapart hok
  have located : ∀ s ∈ ss, ∃ p l, x.host.plan clock s = .ok p ∧ x.host.locate s.path false = .ok l ∧
      x.host.disk.infoAt l = some p.old ∧
      (steps clock ss x).2.host.disk.infoAt l = some (if x.report.isDryRun then p.old else p.left) := by
    intro s hs
    obtain ⟨p, l, hp, hl, hinfo⟩ := hall s hs
    exact ⟨p, l, hp, hl, Host.infoAt_of_plan hp hl, hinfo⟩
  constructor
  · intro hsame
    refine or_iff_not_imp_left.mpr fun hreal s hs p hp => ?_
    obtain ⟨p', l, hp', -, hold, hinfo⟩ := located s hs
    cases hp.symm.trans hp'
    rw [hsame, hold, if_neg hreal] at hinfo
    exact (Option.some.inj hinfo).symm
  · intro hidle l
    by_cases hl : ∃ s ∈ ss, x.host.locate s.path false = .ok l
    · obtain ⟨s, hs, hl⟩ := hl
      obtain ⟨p, l', hp, hl', hold, hinfo⟩ := located s hs
      cases hl.symm.trans hl'
      rw [hinfo, hold]
      rcases hidle with hdry | hidle
      · rw [if_pos hdry]
      · rw [hidle s hs p hp, ite_self]
    · exact (steps_frame ss x).infoAt l fun s hs hs' => hl ⟨s, hs, hs'⟩

end Progress

/-! ### Accepted configs -/

/-- A config that a tree is built of is accepted as a document. -/
theorem accepted_of_built {h : Host} {config : Value} {root : Path} {t : Tree} (hb : (build h config root).outcome = .ok t)
    (path : Option String) : ∃ entries, (Document.ofValue config path true).outcome = .ok entries := by
  have hcount := count_of_built hb Outline.rootLocation
  cases hnode : Fragment.nodeEntries config with
  | error fault =>
    unfold Outline.ofValue at hcount
    rw [hnode] at hcount
    cases hcount
  | ok entries =>
    rw [Outline.ofValue_eq_of_nodeEntries hnode] at hcount
    refine ⟨entries, ?_⟩
    unfold Document.ofValue
    cases config <;> cases hnode
    all_goals
      simp only [Told.outcome_bind, Told.outcome_pure, ok_bind, hcount, ↓reduceIte]
      rfl

section
variable {h₀ h : Host} {config : Value} {root : Path} {t : Tree} {clock : Clock} {isDryRun : Bool}

/-- A config that a tree is built of is accepted as a document, and still a run of it may be stopped by an expression that
cannot be read. The expression is one of the config's, and what was done for the nodes before the one it is for stays: all
that changed changed there, and if the nodes lead to locations of their own, nothing changed just if the run was dry or the
plans of those nodes leave all as it was. -/
theorem changed_before_unreadable (hb : (build h₀ config root).outcome = .ok t) :
    (∀ path, ∃ entries, (Document.ofValue config path true).outcome = .ok entries) ∧
    ∀ e, (t.apply h clock isDryRun).fault = some (.expression e) → ∃ before s after, t.managed = before ++ s :: after ∧
      (∃ p isDirectory, s.resolve clock = .ok (some p) ∧ p.modeFor isDirectory ∈ config.expressions ∧
        Mode.read (p.modeFor isDirectory) = .error e) ∧
      (∀ l, (t.apply h clock isDryRun).run.host.disk.infoAt l ≠ h.disk.infoAt l →
        isDryRun = false ∧ ∃ s' ∈ before, h.locate s'.path false = .ok l) ∧
      (Progress.Apart h t.managed → ((∀ l, (t.apply h clock isDryRun).run.host.disk.infoAt l = h.disk.infoAt l) ↔
        isDryRun = true ∨ ∀ s' ∈ before, ∀ p, h.plan clock s' = .ok p → p.left = p.old)) := by
  refine ⟨accepted_of_built hb, fun e he => ?_⟩
  rw [(apply_eq t h clock isDryRun).1] at he
  rw [apply_host]
  cases hx : Progress.steps clock t.managed ⟨h, .empty isDryRun⟩ with
  | mk fault x =>
    rw [hx] at he
    obtain rfl : fault = some (.expression e) := he
    obtain ⟨before, s, after, hm, hok, hhost, hh⟩ := Progress.steps_stopped t.managed hx
    obtain ⟨p, isDirectory, hr, hread⟩ := Host.unreadable_of_handle hh
    have hwalk : s ∈ t.walk := by
      rw [walk_eq, hm]
      simp
    refine ⟨before, s, after, hm, ?_, ?_, ?_⟩
    · exact ⟨p, isDirectory, hr, modeFor_mem_expressions hb hwalk (Standing.mem_of_resolve hr) isDirectory, hread⟩
    · intro l hl
      dsimp only at hl
      rw [hhost] at hl
      constructor
      · cases isDryRun with
        | false => rfl
        | true =>
          rw [Progress.steps_dry before _ rfl] at hl
          exact absurd rfl hl
      · by_contra hnone
        refine hl ((Progress.steps_frame before ⟨h, .empty isDryRun⟩).infoAt l fun s' hs' hlocate => ?_)
        exact hnone ⟨s', hs', hlocate⟩
    · intro hapart
      rw [hm] at hapart
      dsimp only
      rw [hhost]
      exact Progress.steps_unchanged_iff (List.pairwise_append.mp hapart).1 hok

end

/-! ### A permission mistyped -/

namespace Mistyped

/-- A course with two files. -/
def host : Host := Trial.host [("notes", Trial.file 0o644), ("slides", Trial.file 0o644)] []

/-- A config that gives the second file a permission there is none of. -/
def config : Value :=
  .map [(.text "notes", .map [(.text "mode", .text "0600")]), (.text "slides", .map [(.text "mode", .text "u+q")])]

def refusal : InvalidExpression := { expression := "u+q", fault := .unknownPermission 'q' }

/-- The expression that a run stopped at. -/
def stoppedAt? : Option TreeFault → Option InvalidExpression
  | some (.expression e) => some e
  | _ => none

theorem eq_of_stoppedAt? {fault : Option TreeFault} {e : InvalidExpression} (h : stoppedAt? fault = some e) :
    fault = some (.expression e) := by
  unfold stoppedAt? at h
  split at h
  · cases h
    rfl
  · cases h

end Mistyped

theorem changed_before_unreadable_course : ∃ t, (build Mistyped.host Mistyped.config Trial.root).outcome = .ok t ∧
    (t.apply Mistyped.host Trial.clock false).fault = some (.expression Mistyped.refusal) ∧
    (∃ entries, (Document.ofValue Mistyped.config none true).outcome = .ok entries) ∧
    ∃ before s after, t.managed = before ++ s :: after ∧
      ¬∀ s' ∈ before, ∀ p, Mistyped.host.plan Trial.clock s' = .ok p → p.left = p.old := by
  obtain ⟨t, ht, hstopped, hapart, hchanged⟩ : ∃ t, (build Mistyped.host Mistyped.config Trial.root).outcome = .ok t ∧
      Mistyped.stoppedAt? (t.apply Mistyped.host Trial.clock false).fault = some Mistyped.refusal ∧
      Progress.Apart Mistyped.host t.managed ∧
      (t.apply Mistyped.host Trial.clock false).run.host.disk.infoAt ["course", "notes"] ≠
        Mistyped.host.disk.infoAt ["course", "notes"] := exists_of_built (by decide +kernel)
  have hfault := Mistyped.eq_of_stoppedAt? hstopped
  obtain ⟨haccepted, hbefore⟩ := changed_before_unreadable ht
  obtain ⟨before, s, after, hm, -, -, hiff⟩ := hbefore _ hfault
  refine ⟨t, ht, hfault, haccepted none, before, s, after, hm, fun hidle => ?_⟩
  exact hchanged ((hiff hapart).mpr (Or.inr hidle) ["course", "notes"])

/-- The config is accepted and the run stops at the expression, when the first file has its new mode already. -/
theorem mistyped_found_late : ∃ t, (build Mistyped.host Mistyped.config Trial.root).outcome = .ok t ∧
    (Document.ofValue Mistyped.config none true).outcome.isOk = true ∧
    Mistyped.stoppedAt? (t.apply Mistyped.host Trial.clock false).fault = some Mistyped.refusal ∧
    Mistyped.host.disk.infoAt ["course", "notes"] = some { mode := 0o644, gid := 0, kind := .file } ∧
    (t.apply Mistyped.host Trial.clock false).run.host.disk.infoAt ["course", "notes"] =
      some { mode := 0o600, gid := 0, kind := .file } :=
  exists_of_built (by decide +kernel)

end Tree

end Curfew
