/-! Computations that may stop with a fault: when they come to a result, and to which. -/

namespace Curfew
variable {ε ε' α β : Type}

theorem mapError_ok (f : ε → ε') (a : α) : (Except.ok a).mapError f = .ok a := rfl

theorem mapError_error (f : ε → ε') (fault : ε) : (Except.error fault : Except ε α).mapError f = .error (f fault) := rfl

theorem mapError_eq_ok {f : ε → ε'} {x : Except ε α} {a : α} : x.mapError f = .ok a ↔ x = .ok a := by
  cases x <;> simp [mapError_ok, mapError_error]

theorem mapError_eq_error {f : ε → ε'} {x : Except ε α} {fault : ε'} :
    x.mapError f = .error fault ↔ ∃ before, x = .error before ∧ f before = fault := by
  cases x <;> simp [mapError_ok, mapError_error]

theorem ok_bind (a : α) (f : α → Except ε β) : (Except.ok a >>= f) = f a := rfl

theorem bind_eq_ok {x : Except ε α} {f : α → Except ε β} {b : β} :
    (x >>= f) = .ok b ↔ ∃ a, x = .ok a ∧ f a = .ok b := by
  cases x <;> simp [bind, Except.bind]

theorem bind_eq_error {x : Except ε α} {f : α → Except ε β} {fault : ε} :
    (x >>= f) = .error fault ↔ x = .error fault ∨ ∃ a, x = .ok a ∧ f a = .error fault := by
  cases x <;> simp [bind, Except.bind]

/-- A computation stops in its first part, or else in what is left of it. -/
theorem exists_bind_eq_error {x : Except ε α} {f : α → Except ε β} : (∃ fault, (x >>= f) = .error fault) ↔
    (∃ fault, x = .error fault) ∨ ∃ a, x = .ok a ∧ ∃ fault, f a = .error fault := by
  cases x <;> simp [bind, Except.bind]

theorem exists_error_or {x : Except ε α} {p : Prop} :
    ((∃ fault, x = .error fault) ∨ (∃ a, x = .ok a) ∧ p) ↔ (∃ fault, x = .error fault) ∨ p := by
  cases x <;> simp

theorem forM_eq_ok {f : α → Except ε Unit} {as : List α} :
    forM as f = .ok () ↔ ∀ a ∈ as, f a = .ok () := by
  induction as with
  | nil => simp [pure, Except.pure]
  | cons a as ih =>
    rw [List.forM_cons, bind_eq_ok, List.forall_mem_cons, ← ih]
    exact ⟨fun ⟨_, ha, has⟩ => ⟨ha, has⟩, fun ⟨ha, has⟩ => ⟨⟨⟩, ha, has⟩⟩

/-- A list is read item by item where each item is read from the one spelling it has. -/
theorem mapM_eq_ok {f : α → Except ε β} {P : β → Prop} {spell : β → α} (h : ∀ a b, f a = .ok b ↔ P b ∧ a = spell b)
    {as : List α} : ∀ {bs : List β}, as.mapM f = .ok bs ↔ (∀ b ∈ bs, P b) ∧ as = bs.map spell := by
  induction as with
  | nil =>
    intro bs
    cases bs <;> simp [pure, Except.pure]
  | cons a as ih =>
    intro bs
    rw [List.mapM_cons, bind_eq_ok]
    constructor
    · rintro ⟨b, hb, hbs⟩
      obtain ⟨rest, hrest, hbs⟩ := bind_eq_ok.mp hbs
      obtain rfl := Except.ok.inj hbs
      obtain ⟨hkept, rfl⟩ := (h a b).mp hb
      obtain ⟨hallKept, rfl⟩ := ih.mp hrest
      exact ⟨List.forall_mem_cons.mpr ⟨hkept, hallKept⟩, rfl⟩
    · rintro ⟨hbs, has⟩
      cases bs with
      | nil => cases has
      | cons b bs =>
        obtain ⟨rfl, rfl⟩ := List.cons.inj has
        obtain ⟨hb, hbs⟩ := List.forall_mem_cons.mp hbs
        exact ⟨b, (h _ b).mpr ⟨hb, rfl⟩, bind_eq_ok.mpr ⟨bs, ih.mpr ⟨hbs, rfl⟩, rfl⟩⟩

theorem mapM_eq_ok_map {f : α → Except ε β} {spell : β → α} (h : ∀ a b, f a = .ok b ↔ a = spell b) {as : List α}
    {bs : List β} : as.mapM f = .ok bs ↔ as = bs.map spell := by
  have hall : as.mapM f = .ok bs ↔ (∀ b ∈ bs, True) ∧ as = bs.map spell :=
    mapM_eq_ok (P := fun _ => True) (by simpa using h)
  simpa using hall

/-- Where each item of a list can be read, so can the list. -/
theorem exists_mapM {f : α → Except ε β} {as : List α} (h : ∀ a ∈ as, ∃ b, f a = .ok b) :
    ∃ bs, as.mapM f = .ok bs ∧ ∀ b, b ∈ bs ↔ ∃ a ∈ as, f a = .ok b := by
  induction as with
  | nil => exact ⟨[], rfl, by simp⟩
  | cons a as ih =>
    obtain ⟨⟨b, hb⟩, hrest⟩ := List.forall_mem_cons.mp h
    obtain ⟨bs, hbs, hmem⟩ := ih hrest
    refine ⟨b :: bs, ?_, fun b' => ?_⟩
    · rw [List.mapM_cons, hb, ok_bind, hbs, ok_bind]
      rfl
    · simp only [List.mem_cons, hmem, exists_eq_or_imp, hb, Except.ok.injEq]
      rw [eq_comm (a := b)]

theorem mapM_mapError {f : α → Except ε β} (k : ε → ε') (as : List α) :
    as.mapM (fun a => (f a).mapError k) = (as.mapM f).mapError k := by
  induction as with
  | nil => rfl
  | cons a as ih =>
    rw [List.mapM_cons, List.mapM_cons, ih]
    cases f a with
    | error fault => rfl
    | ok b => cases as.mapM f <;> rfl

/-- Reading each item of a list as it is needed stops with the fault of reading all of them first. -/
theorem foldlM_map {σ : Type} {f : α → Except ε β} (step : σ → β → σ) (as : List α) : ∀ s : σ,
    as.foldlM (fun s a => (f a).map (step s)) s = (as.mapM f).map fun bs => bs.foldl step s := by
  induction as with
  | nil => exact fun s => rfl
  | cons a as ih =>
    intro s
    rw [List.foldlM_cons, List.mapM_cons]
    cases f a with
    | error fault => rfl
    | ok b =>
      show as.foldlM (fun s a => (f a).map (step s)) (step s b) = _
      rw [ih (step s b)]
      cases as.mapM f <;> rfl

theorem toOption_eq_some {x : Except ε α} {a : α} : x.toOption = some a ↔ x = .ok a := by
  cases x <;> simp [Except.toOption]

/-- A result of which something was decided. -/
theorem exists_of_ok {x : Except ε α} {P : α → Prop} [DecidablePred P]
    (hx : x.toOption.any (fun a => P a) = true) : ∃ a, x = .ok a ∧ P a := by
  cases x with
  | error fault => simp [Except.toOption] at hx
  | ok a => exact ⟨a, rfl, by simpa [Except.toOption] using hx⟩

end Curfew
