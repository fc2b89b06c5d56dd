import Curfew.Proofs.Faults

/-! What a computation comes to and what it may stop with, said at once: of a single computation and of steps that
change a state. -/

namespace Curfew
variable {ε σ α β : Type}

/-! ### Computations -/

/-- A computation comes to a result of a kind, or stops with a fault of a kind. -/
def Ends (Q : α → Prop) (F : ε → Prop) : Except ε α → Prop
  | .ok a => Q a
  | .error fault => F fault

namespace Ends
variable {Q Q' : α → Prop} {R : β → Prop} {F F' : ε → Prop} {x : Except ε α}

instance [DecidablePred Q] [DecidablePred F] : Decidable (Ends Q F x) :=
  match x with
  | .ok a => inferInstanceAs (Decidable (Q a))
  | .error fault => inferInstanceAs (Decidable (F fault))

theorem mono (h : Ends Q F x) (hQ : ∀ a, Q a → Q' a) (hF : ∀ fault, F fault → F' fault) : Ends Q' F' x := by
  cases x with
  | ok a => exact hQ a h
  | error fault => exact hF fault h

theorem bind (h : Ends Q F x) {f : α → Except ε β} (hf : ∀ a, Q a → Ends R F (f a)) : Ends R F (x >>= f) := by
  cases x with
  | ok a => exact hf a h
  | error fault => exact h

theorem mapError {ε' : Type} {G : ε' → Prop} {f : ε → ε'} (hQ : ∀ a, x = .ok a → Q a)
    (hG : ∀ fault, x = .error fault → G (f fault)) : Ends Q G (x.mapError f) := by
  cases x with
  | ok a => exact hQ a rfl
  | error fault => exact hG fault rfl

end Ends

/-! ### Steps -/

/-- From a state of a kind, steps lead to a result and a state of a kind, or stop with a fault of a kind. -/
def Leads (P : σ → Prop) (Q : α → σ → Prop) (F : ε → Prop) (m : StateT σ (Except ε) α) : Prop :=
  ∀ s, P s → Ends (fun r => Q r.1 r.2) F (m.run s)

/-- Steps keep an invariant of their state. -/
def Keeps (I : σ → Prop) (F : ε → Prop) (m : StateT σ (Except ε) α) : Prop := Leads I (fun _ => I) F m

namespace Leads
variable {P P' : σ → Prop} {Q Q' : α → σ → Prop} {R : β → σ → Prop} {F : ε → Prop} {m : StateT σ (Except ε) α}

theorem mono (h : Leads P Q F m) (hP : ∀ s, P' s → P s) (hQ : ∀ a s, Q a s → Q' a s) : Leads P' Q' F m :=
  fun s hs => (h s (hP s hs)).mono (fun r => hQ r.1 r.2) fun _ hfault => hfault

theorem pure {a : α} (h : ∀ s, P s → Q a s) : Leads P Q F (pure a : StateT σ (Except ε) α) := h

theorem throw {fault : ε} (h : F fault) : Leads P Q F (throw fault : StateT σ (Except ε) α) := fun _ _ => h

theorem bind (h : Leads P Q F m) {f : α → StateT σ (Except ε) β} (hf : ∀ a, Leads (Q a) R F (f a)) :
    Leads P R F (m >>= f) :=
  fun s hs => (h s hs).bind fun r hr => hf r.1 r.2 hr

theorem modify {f : σ → σ} {Q : PUnit → σ → Prop} (h : ∀ s, P s → Q ⟨⟩ (f s)) :
    Leads P Q F (modify f : StateT σ (Except ε) PUnit) := h

end Leads

namespace Keeps
variable {I : σ → Prop} {F : ε → Prop} {m : StateT σ (Except ε) α}

theorem pure (a : α) : Keeps I F (pure a : StateT σ (Except ε) α) := Leads.pure fun _ h => h

theorem throw {fault : ε} (h : F fault) : Keeps I F (throw fault : StateT σ (Except ε) α) := Leads.throw h

theorem bind (h : Keeps I F m) {f : α → StateT σ (Except ε) β} (hf : ∀ a, Keeps I F (f a)) : Keeps I F (m >>= f) :=
  Leads.bind h hf

theorem set {s : σ} (h : I s) : Keeps I F (set s : StateT σ (Except ε) PUnit) := fun _ _ => h

theorem modify {f : σ → σ} (h : ∀ s, I s → I (f s)) : Keeps I F (modify f : StateT σ (Except ε) PUnit) := Leads.modify h

theorem mapM {f : α → StateT σ (Except ε) β} (h : ∀ a, Keeps I F (f a)) (as : List α) : Keeps I F (as.mapM f) := by
  induction as with
  | nil => exact Keeps.pure []
  | cons a as ih =>
    rw [List.mapM_cons]
    exact (h a).bind fun _ => ih.bind fun _ => Keeps.pure _

theorem forM {f : α → StateT σ (Except ε) PUnit} (h : ∀ a, Keeps I F (f a)) (as : List α) : Keeps I F (as.forM f) := by
  induction as with
  | nil => exact Keeps.pure PUnit.unit
  | cons a as ih => exact (h a).bind fun _ => ih

end Keeps

end Curfew
