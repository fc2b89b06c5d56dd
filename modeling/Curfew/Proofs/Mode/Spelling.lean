import Curfew.Mode.Expression
import Curfew.Proofs.Faults
import Curfew.Proofs.Text.Pieces

/-! Expressions as they are written. Who acts, operators and permissions have one symbol each, so a text is read as the
one expression that it spells, and as none if it spells none. -/

namespace Curfew

/-! ### Symbols -/

def Class.symbol : Class → Char
  | .owner => 'u'
  | .group => 'g'
  | .others => 'o'

def Who.symbol : Who → Char
  | .only c => c.symbol
  | .all => 'a'

def Operator.symbol : Operator → Char
  | .add => '+'
  | .remove => '-'
  | .assign => '='

def Permission.symbol : Permission → Char
  | .read => 'r'
  | .write => 'w'
  | .execute => 'x'
  | .search => 'X'
  | .setId => 's'
  | .sticky => 't'
  | .copy source => source.symbol

section
variable {symbol : Char}

theorem Class.ofChar?_eq_some {c : Class} : Class.ofChar? symbol = some c ↔ symbol = c.symbol := by
  constructor
  · intro h
    unfold ofChar? at h
    split at h <;> cases h <;> rfl
  · rintro rfl
    cases c <;> rfl

theorem Who.ofSymbol_eq_ok {w : Who} : Who.ofSymbol symbol = .ok w ↔ symbol = w.symbol := by
  have hread : Who.ofChar? symbol = some w ↔ symbol = w.symbol := by
    constructor
    · intro h
      unfold ofChar? at h
      split at h
      · cases h
        rfl
      · obtain ⟨c, hc, rfl⟩ := Option.map_eq_some_iff.mp h
        exact Class.ofChar?_eq_some.mp hc
    · rintro rfl
      rcases w with (_ | _ | _) | _ <;> rfl
  unfold ofSymbol
  rw [← hread]
  cases Who.ofChar? symbol <;> simp

theorem Operator.ofChar?_eq_some {operator : Operator} : Operator.ofChar? symbol = some operator ↔ symbol = operator.symbol := by
  constructor
  · intro h
    unfold ofChar? at h
    split at h <;> cases h <;> rfl
  · rintro rfl
    cases operator <;> rfl

theorem Permission.ofSymbol_eq_ok {p : Permission} : Permission.ofSymbol symbol = .ok p ↔ symbol = p.symbol := by
  have hread : Permission.ofChar? symbol = some p ↔ symbol = p.symbol := by
    constructor
    · intro h
      unfold ofChar? at h
      split at h
      iterate 6
        · cases h
          rfl
      · obtain ⟨c, hc, rfl⟩ := Option.map_eq_some_iff.mp h
        exact Class.ofChar?_eq_some.mp hc
    · rintro rfl
      rcases p with _ | _ | _ | _ | _ | _ | (_ | _ | _) <;> rfl
  unfold ofSymbol
  rw [← hread]
  cases Permission.ofChar? symbol <;> simp

end

/-- No other symbol is that of an operator, and none is a comma. -/
theorem Who.symbol_plain (w : Who) : Operator.ofChar? w.symbol = none ∧ w.symbol ≠ ',' := by
  rcases w with (_ | _ | _) | _ <;> exact ⟨rfl, by decide⟩

theorem Permission.symbol_plain (p : Permission) : Operator.ofChar? p.symbol = none ∧ p.symbol ≠ ',' := by
  rcases p with _ | _ | _ | _ | _ | _ | (_ | _ | _) <;> exact ⟨rfl, by decide⟩

theorem Operator.symbol_ne (operator : Operator) :
    operator.symbol ≠ ',' ∧ ¬('0' ≤ operator.symbol ∧ operator.symbol ≤ '7') := by
  cases operator <;> exact ⟨by decide, by decide⟩

/-! ### Clauses -/

def Action.chars (a : Action) : List Char := a.operator.symbol :: a.permissions.map Permission.symbol

def Clause.chars (c : Clause) : List Char := c.who.map Who.symbol ++ c.actions.flatMap Action.chars

section
variable {c : Char} {cs : List Char} {operator : Operator}

theorem splitOperators_operator (h : Operator.ofChar? c = some operator) (cs : List Char) :
    splitOperators (c :: cs) = ([], (operator, (splitOperators cs).1) :: (splitOperators cs).2) := by
  unfold splitOperators
  rw [List.foldr_cons, h]

theorem splitOperators_plain (h : Operator.ofChar? c = none) (cs : List Char) :
    splitOperators (c :: cs) = (c :: (splitOperators cs).1, (splitOperators cs).2) := by
  unfold splitOperators
  rw [List.foldr_cons, h]

/-- The pieces that a text is split into make it up again. -/
theorem splitOperators_joined (cs : List Char) :
    (splitOperators cs).1 ++ (splitOperators cs).2.flatMap (fun a => a.1.symbol :: a.2) = cs := by
  induction cs with
  | nil => rfl
  | cons c cs ih =>
    cases hc : Operator.ofChar? c with
    | none => rw [splitOperators_plain hc, List.cons_append, ih]
    | some operator =>
      rw [splitOperators_operator hc, List.nil_append, List.flatMap_cons, List.cons_append, ih,
        Operator.ofChar?_eq_some.mp hc]

theorem splitOperators_append {symbols : List Char} (h : ∀ c ∈ symbols, Operator.ofChar? c = none) (cs : List Char) :
    splitOperators (symbols ++ cs) = (symbols ++ (splitOperators cs).1, (splitOperators cs).2) := by
  induction symbols with
  | nil => rfl
  | cons c symbols ih =>
    obtain ⟨hc, hsymbols⟩ := List.forall_mem_cons.mp h
    rw [List.cons_append, splitOperators_plain hc, ih hsymbols, List.cons_append]

end

theorem splitOperators_chars (c : Clause) : splitOperators c.chars =
    (c.who.map Who.symbol, c.actions.map fun a => (a.operator, a.permissions.map Permission.symbol)) := by
  have hactions : ∀ actions : List Action, splitOperators (actions.flatMap Action.chars) =
      ([], actions.map fun a => (a.operator, a.permissions.map Permission.symbol)) := by
    intro actions
    induction actions with
    | nil => rfl
    | cons a actions ih =>
      have hplain : ∀ symbol ∈ a.permissions.map Permission.symbol, Operator.ofChar? symbol = none :=
        List.forall_mem_map.mpr fun p _ => p.symbol_plain.1
      rw [List.flatMap_cons, Action.chars, List.cons_append, splitOperators_operator (Operator.ofChar?_eq_some.mpr rfl),
        splitOperators_append hplain, ih, List.append_nil, List.map_cons]
  have hwho : ∀ symbol ∈ c.who.map Who.symbol, Operator.ofChar? symbol = none :=
    List.forall_mem_map.mpr fun w _ => w.symbol_plain.1
  rw [Clause.chars, splitOperators_append hwho, hactions, List.append_nil]

theorem Action.ofSymbols_eq_ok {symbols : Operator × List Char} {a : Action} :
    Action.ofSymbols symbols.1 symbols.2 = .ok a ↔ symbols = (a.operator, a.permissions.map Permission.symbol) := by
  have hmap : ∀ {ps : List Permission}, symbols.2.mapM Permission.ofSymbol = .ok ps ↔ symbols.2 = ps.map Permission.symbol :=
    mapM_eq_ok_map fun _ _ => Permission.ofSymbol_eq_ok
  rw [Prod.ext_iff, Action.ofSymbols, bind_eq_ok]
  constructor
  · rintro ⟨ps, hps, ha⟩
    obtain rfl := Except.ok.inj ha
    exact ⟨rfl, hmap.mp hps⟩
  · rintro ⟨hoperator, hsymbols⟩
    refine ⟨a.permissions, hmap.mpr hsymbols, ?_⟩
    rw [hoperator]
    rfl

/-- A text is read as a clause if and only if it is what the clause is written as; a clause has an action at least. -/
theorem Clause.ofChars_eq_ok {cs : List Char} {c : Clause} : Clause.ofChars cs = .ok c ↔ c.actions ≠ [] ∧ cs = c.chars := by
  have hwho : ∀ {symbols : List Char} {ws : List Who}, symbols.mapM Who.ofSymbol = .ok ws ↔ symbols = ws.map Who.symbol :=
    mapM_eq_ok_map fun _ _ => Who.ofSymbol_eq_ok
  have hactions : ∀ {pieces : List (Operator × List Char)} {as : List Action},
      pieces.mapM (fun a => Action.ofSymbols a.1 a.2) = .ok as ↔
        pieces = as.map fun a => (a.operator, a.permissions.map Permission.symbol) :=
    mapM_eq_ok_map fun _ _ => Action.ofSymbols_eq_ok
  constructor
  · intro h
    have hjoined := splitOperators_joined cs
    unfold ofChars at h
    split at h
    · cases h
    · rename_i symbols pieces hpieces hsplit
      obtain ⟨ws, hws, h⟩ := bind_eq_ok.mp h
      obtain ⟨as, has, h⟩ := bind_eq_ok.mp h
      obtain rfl := Except.ok.inj h
      rw [hsplit, hwho.mp hws, hactions.mp has, List.flatMap_map] at hjoined
      refine ⟨?_, hjoined.symm⟩
      rintro rfl
      exact hpieces (hactions.mp has)
  · rintro ⟨hne, rfl⟩
    unfold ofChars
    rw [splitOperators_chars]
    split
    · rename_i hsplit
      exact absurd (List.map_eq_nil_iff.mp (Prod.ext_iff.mp hsplit).2) hne
    · rename_i hsplit
      obtain ⟨rfl, rfl⟩ := Prod.ext_iff.mp hsplit
      exact bind_eq_ok.mpr ⟨c.who, hwho.mpr rfl, bind_eq_ok.mpr ⟨c.actions, hactions.mpr rfl, rfl⟩⟩

theorem Clause.comma_not_mem_chars (c : Clause) : ',' ∉ c.chars := by
  intro h
  rcases List.mem_append.mp h with h | h
  · obtain ⟨w, -, hw⟩ := List.mem_map.mp h
    exact w.symbol_plain.2 hw
  · obtain ⟨a, -, ha⟩ := List.mem_flatMap.mp h
    rcases List.mem_cons.mp ha with ha | ha
    · exact a.operator.symbol_ne.1 ha.symm
    · obtain ⟨p, -, hp⟩ := List.mem_map.mp ha
      exact p.symbol_plain.2 hp

/-! ### Expressions -/

/-- A text spells an expression: one to four octal digits their value, clauses with commas between them the clauses. -/
def Expression.Spells (cs : List Char) : Expression → Prop
  | .octal mode => isOctal cs = true ∧ mode.toNat = octalValue cs
  | .symbolic clauses =>
    clauses ≠ [] ∧ (∀ c ∈ clauses, c.actions ≠ []) ∧ cs = Text.joinWith [','] (clauses.map Clause.chars)

theorem octalValue_lt {cs : List Char} (h : isOctal cs = true) : octalValue cs < 4096 := by
  have hdigit : ∀ c : Char, c ≤ '7' → c.toNat - '0'.toNat ≤ 7 := fun c hc => by
    have hle : c.toNat ≤ '7'.toNat := hc
    have hseven : '7'.toNat = '0'.toNat + 7 := rfl
    omega
  unfold isOctal at h
  simp only [Bool.and_eq_true, List.all_eq_true, decide_eq_true_eq] at h
  obtain ⟨⟨hall, hpos⟩, hlength⟩ := h
  have hdigits : ∀ c ∈ cs, c.toNat - '0'.toNat ≤ 7 := fun c hc => hdigit c (hall c hc).2
  unfold octalValue
  rcases cs with _ | ⟨a, _ | ⟨b, _ | ⟨c, _ | ⟨d, _ | ⟨e, rest⟩⟩⟩⟩⟩
  iterate 5
    · simp only [List.mem_cons, forall_eq_or_imp, List.not_mem_nil] at hdigits
      simp only [List.foldl_cons, List.foldl_nil]
      omega
  · simp only [List.length_cons] at hlength
    omega

theorem exists_operator {clauses : List Clause} (hne : clauses ≠ []) (hactions : ∀ c ∈ clauses, c.actions ≠ []) :
    ∃ operator : Operator, operator.symbol ∈ Text.joinWith [','] (clauses.map Clause.chars) := by
  obtain ⟨c, rest, rfl⟩ := List.exists_cons_of_ne_nil hne
  obtain ⟨a, more, ha⟩ := List.exists_cons_of_ne_nil (hactions c List.mem_cons_self)
  have hclause : a.operator.symbol ∈ c.chars := by simp [Clause.chars, ha, Action.chars]
  refine ⟨a.operator, ?_⟩
  cases rest with
  | nil => exact hclause
  | cons next rest => exact List.mem_append_left _ (List.mem_append_left _ hclause)

/-- A text is read as an expression if and only if it spells it. -/
theorem Expression.ofChars_eq_ok {cs : List Char} {e : Expression} : Expression.ofChars cs = .ok e ↔ e.Spells cs := by
  have hclauses : ∀ {pieces : List (List Char)} {clauses : List Clause}, pieces.mapM Clause.ofChars = .ok clauses ↔
      (∀ c ∈ clauses, c.actions ≠ []) ∧ pieces = clauses.map Clause.chars := mapM_eq_ok fun _ _ => Clause.ofChars_eq_ok
  have hoctal : ∀ clauses : List Clause, isOctal cs = true → ¬(Expression.symbolic clauses).Spells cs := by
    rintro clauses hoctal ⟨hne, hactions, rfl⟩
    obtain ⟨operator, hmem⟩ := exists_operator hne hactions
    unfold isOctal at hoctal
    simp only [Bool.and_eq_true, List.all_eq_true, decide_eq_true_eq] at hoctal
    exact operator.symbol_ne.2 (hoctal.1.1 operator.symbol hmem)
  unfold ofChars
  split
  · rename_i h
    have hvalue := octalValue_lt h
    cases e with
    | symbolic clauses => exact ⟨fun he => (by cases he), fun he => absurd he (hoctal clauses h)⟩
    | octal mode =>
      rw [Except.ok.injEq, Expression.octal.injEq, Spells, and_iff_right h, eq_comm (a := BitVec.ofNat 12 _),
        BitVec.toNat_eq, BitVec.toNat_ofNat, Nat.mod_eq_of_lt hvalue]
  · rename_i h
    cases e with
    | octal mode =>
      refine ⟨fun he => ?_, fun he => absurd he.1 h⟩
      obtain ⟨clauses, -, he⟩ := bind_eq_ok.mp he
      cases he
    | symbolic clauses =>
      rw [bind_eq_ok, Spells]
      constructor
      · rintro ⟨read, hread, he⟩
        obtain rfl := Expression.symbolic.inj (Except.ok.inj he)
        obtain ⟨hactions, hpieces⟩ := hclauses.mp hread
        have hjoined := (Text.joinWith_splitAt ',' cs).1
        rw [hpieces] at hjoined
        refine ⟨?_, hactions, hjoined.symm⟩
        rintro rfl
        exact Text.splitAt_ne_nil ',' cs hpieces
      · rintro ⟨hne, hactions, hcs⟩
        have hfree : ∀ piece ∈ clauses.map Clause.chars, ',' ∉ piece :=
          List.forall_mem_map.mpr fun c _ => c.comma_not_mem_chars
        have hpieces : Text.splitAt ',' cs = clauses.map Clause.chars := by
          rw [hcs, Text.splitAt_joinWith (by simpa using hne) hfree]
        exact ⟨clauses, hclauses.mpr ⟨hactions, hpieces⟩, rfl⟩

end Curfew
