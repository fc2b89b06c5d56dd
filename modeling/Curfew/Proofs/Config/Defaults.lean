import Curfew.Config.Fragment
import Curfew.Proofs.Value.Entries

/-! Default modes and dated modes. A default is one of the settings of a node and is spread over both kinds of entries
before it is checked; a dated mode is checked where its date is met. Still a value comes to the same expressions either
way, or to the same issues. -/

namespace Curfew

namespace Directives
variable {v : Value}

/-- What is given under the key of the default modes is checked as the modes of a policy are. -/
theorem checkMode_some (hv : v ≠ .null) : checkMode (some v) = (ModeSpec.ofValue v).map some := by
  cases v with
  | null => exact absurd rfl hv
  | _ => rfl

/-- The settings of a mapping with nothing but the default modes. -/
theorem ofEntries_mode (v : Value) : ofEntries [(.text "mode", v)] =
    ((checkMode (some v)).map fun mode => { empty with mode }).mapError fun issues => issues.map (Issue.inside (.key "mode")) := by
  have hothers : ∀ name, name ≠ "mode" → Value.field? name [(.text "mode", v)] = none := fun name hname =>
    Value.field?_absent (fun h => hname (Value.text.inj h).symm) v
  unfold ofEntries under
  rw [Value.field?_alone, hothers "group" (by decide), hothers "exclude" (by decide), hothers "include" (by decide)]
  cases checkMode (some v) with
  | ok mode => rfl
  | error issues =>
    show Except.error (_ ++ [] ++ [] ++ []) = Except.error _
    rw [List.append_nil, List.append_nil, List.append_nil]
    rfl

/-- A date names no setting. -/
theorem ofEntries_time (date : When) (v : Value) : ofEntries [(.time date, v)] = .ok empty := by
  have habsent : ∀ name, Value.field? name [(.time date, v)] = none := fun name => Value.field?_absent (by simp) v
  unfold ofEntries under
  rw [habsent, habsent, habsent, habsent]
  rfl

end Directives

namespace Fragment

/-- A value that is given means the same as the default and under a date: the same expressions, or the same issues, seen
as a default from outside the key. -/
theorem default_alike_dated {v : Value} (hv : v ≠ .null) :
    (∃ spec, ModeSpec.ofValue v = .ok spec ∧
      Directives.ofEntries [(.text "mode", v)] = .ok { Directives.empty with mode := some spec } ∧
      ∀ date, ofEntries [(.time date, v)] = .ok { settings := { directives := .empty, dated := [(date, spec)] }, children := [] }) ∨
    (∃ issues, ModeSpec.ofValue v = .error issues ∧
      Directives.ofEntries [(.text "mode", v)] = .error (issues.map (Issue.inside (.key "mode"))) ∧
      ∀ date, ofEntries [(.time date, v)] = .error (.dated date issues)) := by
  have hdated : ∀ date, ofEntries [(.time date, v)] =
      addDated date v { settings := { directives := .empty, dated := [] }, children := [] } := fun date => by
    unfold ofEntries
    rw [Directives.ofEntries_time]
    exact bind_pure _
  cases hspec : ModeSpec.ofValue v with
  | ok spec =>
    refine Or.inl ⟨spec, rfl, ?_, fun date => ?_⟩
    · rw [Directives.ofEntries_mode, Directives.checkMode_some hv, hspec]
      rfl
    · rw [hdated, addDated, hspec]
      rfl
  | error issues =>
    refine Or.inr ⟨issues, rfl, ?_, fun date => ?_⟩
    · rw [Directives.ofEntries_mode, Directives.checkMode_some hv, hspec]
      rfl
    · rw [hdated, addDated, hspec]

/-- A number for directories, a list for files and a key too many. -/
theorem default_alike_dated_mixed : ∃ v : Value,
    v = .map [(.text "dir", .int 0o755), (.text "file", .list []), (.text "mode", .bool true)] ∧ v ≠ .null ∧
    ((∃ spec, ModeSpec.ofValue v = .ok spec ∧
      Directives.ofEntries [(.text "mode", v)] = .ok { Directives.empty with mode := some spec } ∧
      ∀ date, ofEntries [(.time date, v)] = .ok { settings := { directives := .empty, dated := [(date, spec)] }, children := [] }) ∨
    (∃ issues, ModeSpec.ofValue v = .error issues ∧
      Directives.ofEntries [(.text "mode", v)] = .error (issues.map (Issue.inside (.key "mode"))) ∧
      ∀ date, ofEntries [(.time date, v)] = .error (.dated date issues))) := by
  have hv : Value.map [(.text "dir", .int 0o755), (.text "file", .list []), (.text "mode", .bool true)] ≠ .null := by simp
  exact ⟨_, rfl, hv, default_alike_dated hv⟩

example : ModeSpec.ofValue (.map [(.text "dir", .int 0o755), (.text "file", .list []), (.text "mode", .bool true)]) =
    .error [⟨.notText, [.key "file"]⟩, ⟨.unexpected, [.key "mode"]⟩] := by decide +kernel

end Fragment

end Curfew
