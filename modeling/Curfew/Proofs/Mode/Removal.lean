import Curfew.Proofs.Mode.Reading

/-! Expressions that only take permissions away. Each of their actions removes plain permissions, so an action leaves a
part of the bits it finds, and so does a whole expression. -/

namespace Curfew

/-- Steps that each relate what they leave to what they find relate the end to the start. -/
theorem foldl_related {α β : Type} {R : β → β → Prop} (refl : ∀ b, R b b) (trans : ∀ {a b c}, R a b → R b c → R a c)
    {f : β → α → β} {as : List α} (h : ∀ a ∈ as, ∀ b, R (f b a) b) : ∀ b, R (as.foldl f b) b := by
  induction as with
  | nil => exact refl
  | cons a as ih =>
    intro b
    obtain ⟨ha, has⟩ := List.forall_mem_cons.mp h
    rw [List.foldl_cons]
    exact trans (ih has (f b a)) (ha b)

namespace Mode

/-- All bits of one mode are bits of another. -/
def Within (m n : Mode) : Prop := m &&& n = m

instance (m n : Mode) : Decidable (Within m n) := inferInstanceAs (Decidable (_ = _))

theorem Within.refl (m : Mode) : m.Within m := BitVec.and_self

theorem Within.trans {m n k : Mode} (h₁ : m.Within n) (h₂ : n.Within k) : m.Within k := by
  unfold Within at *
  calc m &&& k = m &&& n &&& k := by rw [h₁]
    _ = m &&& (n &&& k) := BitVec.and_assoc ..
    _ = m := by rw [h₂, h₁]

theorem within_and (m n : Mode) : (m &&& n).Within m := by
  unfold Within
  rw [BitVec.and_comm m n, BitVec.and_assoc, BitVec.and_self]

/-- Steps that each keep within what they find keep within the start. -/
theorem foldl_within {α : Type} {f : Mode → α → Mode} {as : List α} (h : ∀ a ∈ as, ∀ m, (f m a).Within m) :
    ∀ m : Mode, (as.foldl f m).Within m := foldl_related Within.refl .trans h

end Mode

/-! ### Actions -/

def Permission.isCopy : Permission → Bool
  | .copy _ => true
  | _ => false

/-- An action takes plain permissions away. -/
def Action.Removes (a : Action) : Prop := a.operator = .remove ∧ ∀ p ∈ a.permissions, p.isCopy = false

instance (a : Action) : Decidable a.Removes := inferInstanceAs (Decidable (_ ∧ _))

namespace Gathering
variable {isDirectory : Bool} {who : Mode} {operator : Operator} {g : Gathering}

/-- Plain permissions are gathered; nothing is applied yet. -/
theorem step_mode {p : Permission} (hp : p.isCopy = false) : (g.step isDirectory who operator p).mode = g.mode := by
  cases p with
  | copy source => cases hp
  | search =>
    show (if g.mode.isSearchable isDirectory then _ else g : Gathering).mode = g.mode
    split <;> rfl
  | _ => rfl

theorem foldl_step_mode {ps : List Permission} (hps : ∀ p ∈ ps, p.isCopy = false) : ∀ g : Gathering,
    (ps.foldl (step isDirectory who operator) g).mode = g.mode := by
  induction ps with
  | nil => exact fun g => rfl
  | cons p ps ih =>
    intro g
    obtain ⟨hp, hps⟩ := List.forall_mem_cons.mp hps
    rw [List.foldl_cons, ih hps, step_mode hp]

theorem finish_remove_within (who : Mode) (g : Gathering) : (g.finish who .remove).Within g.mode := by
  unfold finish
  split
  · exact Mode.within_and _ _
  · exact .refl _

end Gathering

theorem Action.run_within {a : Action} (ha : a.Removes) (isDirectory : Bool) (who mode : Mode) :
    (a.run isDirectory who mode).Within mode := by
  obtain ⟨hoperator, hpermissions⟩ := ha
  unfold run
  rw [hoperator]
  have hfinish := Gathering.finish_remove_within who
    (a.permissions.foldl (Gathering.step isDirectory who .remove) { mode, permissions := 0, due := Operator.remove = .assign })
  rw [Gathering.foldl_step_mode hpermissions] at hfinish
  exact hfinish

/-! ### Expressions -/

/-- An expression is symbolic and all its actions take plain permissions away. -/
def Expression.Removes : Expression → Prop
  | .octal _ => False
  | .symbolic clauses => ∀ c ∈ clauses, ∀ a ∈ c.actions, a.Removes

instance : ∀ e : Expression, Decidable e.Removes
  | .octal _ => inferInstanceAs (Decidable False)
  | .symbolic clauses => inferInstanceAs (Decidable (∀ c ∈ clauses, ∀ a ∈ c.actions, a.Removes))

theorem Expression.run_within {e : Expression} (he : e.Removes) (isDirectory : Bool) (mode : Mode) :
    (e.run isDirectory mode).Within mode := by
  cases e with
  | octal result => exact he.elim
  | symbolic clauses =>
    refine Mode.foldl_within (fun c hc m => ?_) mode
    exact Mode.foldl_within (fun a ha m => Action.run_within (he c hc a ha) isDirectory _ m) m

namespace Mode

/-- A text reads as an expression that takes plain permissions away, if it reads as any. -/
def OnlyRemoves (text : String) : Prop := ∀ e, read text = .ok e → e.Removes

instance (text : String) : Decidable (OnlyRemoves text) :=
  match h : read text with
  | .ok e => decidable_of_iff e.Removes ⟨fun he _ heq => Except.ok.inj (h.symm.trans heq) ▸ he, fun he => he e h⟩
  | .error _ => .isTrue fun _ heq => nomatch h.symm.trans heq

theorem compile_within {text : String} (ht : OnlyRemoves text) {m m' : Mode} {isDirectory : Bool}
    (hc : compile text m isDirectory = .ok m') : m'.Within m := by
  obtain ⟨e, he, rfl⟩ := compile_eq_ok.mp hc
  exact Expression.run_within (ht e he) isDirectory m

end Mode

/-! ### Groups -/

/-- Setting the group of a file takes bits of its mode away and adds none. -/
theorem Entry.modeAfterChgrp_within (mode : Mode) : (Entry.modeAfterChgrp mode).Within mode := by
  show (if mode &&& ~~~Mode.setUser &&& Mode.groupExecute = 0 then _ else _ : Mode).Within mode
  split
  · exact Mode.within_and _ _
  · exact (Mode.within_and _ _).trans (Mode.within_and _ _)

end Curfew
