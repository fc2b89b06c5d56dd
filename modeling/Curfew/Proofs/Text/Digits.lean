import Curfew.Proofs.Text.Pieces
import Curfew.Text.Numeral

/-! Digits written and read again. A number is read from its digits as it was written, in decimal with its sign and in
base sixteen with zeros in front. -/

namespace Curfew.Text

/-! ### One digit -/

theorem digit?_digitChar {base d : Nat} (hbase : base ≤ 16) (hd : d < base) : digit? base (digitChar d) = some d := by
  have hvalue : ∀ d : Fin 16, (decimalDigit? (digitChar d)).or (letterDigit? (digitChar d)) = some d.val := by
    decide
  unfold digit?
  rw [hvalue ⟨d, Nat.lt_of_lt_of_le hd hbase⟩]
  exact Option.filter_eq_some_iff.mpr ⟨rfl, by simpa using hd⟩

theorem digitChar_ne {d : Nat} (hd : d < 16) : (digitChar d).toNat < 0x80 ∧ digitChar d ≠ '_' := by
  have hall : ∀ d : Fin 16, (digitChar d).toNat < 0x80 ∧ digitChar d ≠ '_' := by decide
  exact hall ⟨d, hd⟩

theorem isDigit_digitChar {d : Nat} (hd : d < 10) : (digitChar d).isDigit = true ∧ isPadding (digitChar d) = false := by
  have hall : ∀ d : Fin 10, (digitChar d).isDigit = true ∧ isPadding (digitChar d) = false := by decide
  exact hall ⟨d, hd⟩

theorem digitChar_ne_zero {d : Nat} (hd : d < 10) (hpos : 0 < d) : digitChar d ≠ '0' := by
  have hall : ∀ d : Fin 10, 0 < d.val → digitChar d ≠ '0' := by decide
  exact hall ⟨d, hd⟩ hpos

/-- A digit of ASCII is the digit of a number below ten. -/
theorem exists_digitChar {c : Char} (h : c.isDigit = true) : ∃ d < 10, c = digitChar d := by
  have hrange : 48 ≤ c.toNat ∧ c.toNat ≤ 57 := by
    simpa [Char.isDigit, UInt32.le_iff_toNat_le] using h
  refine ⟨c.toNat - 48, by omega, ?_⟩
  have hcode : '0'.toNat + (c.toNat - 48) = c.toNat := by
    show 48 + (c.toNat - 48) = c.toNat
    omega
  rw [digitChar, if_pos (by omega), hcode, Char.ofNat_toNat]

/-- What is told of the ten digits is told of every digit. -/
theorem forall_isDigit {P : Char → Prop} (h : ∀ d : Fin 10, P (digitChar d)) {c : Char} (hc : c.isDigit = true) : P c := by
  obtain ⟨d, hd, rfl⟩ := exists_digitChar hc
  exact h ⟨d, hd⟩

theorem decimalDigit?_of_isDigit {c : Char} (h : c.isDigit = true) : ∃ d, decimalDigit? c = some d := by
  have hall : ∀ d : Fin 10, decimalDigit? (digitChar d) = some d.val := by decide
  obtain ⟨d, hd, rfl⟩ := exists_digitChar h
  exact ⟨d, hall ⟨d, hd⟩⟩

theorem ne_underscore_of_isDigit {c : Char} (h : c.isDigit = true) : c ≠ '_' := by
  rintro rfl
  exact absurd h (by decide)

/-! ### All digits -/

theorem digits_of_lt {base n : Nat} (h : n < base) : digits base n = [digitChar n] := by
  rw [digits, if_neg (by omega)]

theorem digits_of_le {base n : Nat} (hbase : 2 ≤ base) (h : base ≤ n) :
    digits base n = digits base (n / base) ++ [digitChar (n % base)] := by
  rw [digits, if_pos ⟨hbase, h⟩]

theorem digits_ne_nil (base n : Nat) : digits base n ≠ [] := by
  rw [digits]
  split <;> simp

/-- What is told of single digits and goes on from the front digits to all of them is told of the digits of a number. -/
theorem digits_induction {base : Nat} (hbase : 2 ≤ base) {P : Nat → List Char → Prop} (one : ∀ d < base, P d [digitChar d])
    (more : ∀ n cs, ∀ d < base, 0 < n → P n cs → P (n * base + d) (cs ++ [digitChar d])) (n : Nat) : P n (digits base n) := by
  induction n using Nat.strongRecOn with
  | ind n ih =>
    by_cases hn : n < base
    · rw [digits_of_lt hn]
      exact one n hn
    · have hle : base ≤ n := Nat.le_of_not_lt hn
      have hfront := ih (n / base) (Nat.div_lt_self (by omega) hbase)
      have hpos : 0 < n / base := Nat.div_pos hle (by omega)
      have hall := more (n / base) _ (n % base) (Nat.mod_lt n (by omega)) hpos hfront
      rw [digits_of_le hbase hle]
      rwa [Nat.div_add_mod' n base] at hall

/-- The digits of a number begin with a zero for zero only. -/
theorem digits_head (n : Nat) : ∃ c rest, digits 10 n = c :: rest ∧ (0 < n → c ≠ '0') := by
  refine digits_induction (by decide) (P := fun n cs => ∃ c rest, cs = c :: rest ∧ (0 < n → c ≠ '0')) (fun d hd => ?_)
    (fun n cs d _ hpos => ?_) n
  · exact ⟨digitChar d, [], rfl, digitChar_ne_zero hd⟩
  · rintro ⟨c, rest, rfl, hc⟩
    exact ⟨c, rest ++ [digitChar d], rfl, fun _ => hc hpos⟩

theorem isDigit_of_mem_digits (n : Nat) : ∀ c ∈ digits 10 n, c.isDigit = true ∧ isPadding c = false := by
  refine digits_induction (by decide) (P := fun _ cs => ∀ c ∈ cs, c.isDigit = true ∧ isPadding c = false)
    (fun d hd => ?_) (fun n cs d hd _ ih => ?_) n
  · exact List.forall_mem_singleton.mpr (isDigit_digitChar hd)
  · exact List.forall_mem_append.mpr ⟨ih, List.forall_mem_singleton.mpr (isDigit_digitChar hd)⟩

/-- A number has one digit more than what is left of it without its last one. -/
theorem length_digits_le {base : Nat} (hbase : 2 ≤ base) {k : Nat} (hk : 0 < k) (n : Nat) :
    (digits base n).length ≤ k + 1 ↔ (digits base (n / base)).length ≤ k := by
  by_cases hn : n < base
  · rw [digits_of_lt hn, digits_of_lt (by rw [Nat.div_eq_of_lt hn]; omega)]
    simp only [List.length_singleton]
    omega
  · rw [digits_of_le hbase (Nat.le_of_not_lt hn), List.length_append, List.length_singleton]
    omega

theorem length_digits_le_one {base : Nat} (hbase : 2 ≤ base) (n : Nat) : (digits base n).length ≤ 1 ↔ n < base := by
  by_cases hn : n < base
  · simp [digits_of_lt hn, hn]
  · have hpos : 0 < (digits base (n / base)).length := List.length_pos_iff.mpr (digits_ne_nil base (n / base))
    rw [digits_of_le hbase (Nat.le_of_not_lt hn), List.length_append, List.length_singleton]
    omega

/-! ### Reading digits -/

theorem groupedDigits?_cons {base : Nat} {c : Char} (hc : c ≠ '_') (cs : List Char) (value : Nat) :
    groupedDigits? base (c :: cs) value = (digit? base c).bind fun d => groupedDigits? base cs (value * base + d) := by
  rw [groupedDigits?]
  · rfl
  · exact fun h _ => hc h
  · exact fun _ _ h _ => hc h

theorem groupedDigits?_append {base : Nat} {c : Char} (hc : c ≠ '_') : ∀ {cs : List Char}, (∀ c ∈ cs, c ≠ '_') → ∀ value,
    groupedDigits? base (cs ++ [c]) value =
      (groupedDigits? base cs value).bind fun n => (digit? base c).map fun d => n * base + d
  | [], _, value => by
    rw [List.nil_append, groupedDigits?_cons hc]
    cases digit? base c <;> rfl
  | first :: cs, hcs, value => by
    obtain ⟨hfirst, hrest⟩ := List.forall_mem_cons.mp hcs
    rw [List.cons_append, groupedDigits?_cons hfirst, groupedDigits?_cons hfirst]
    cases digit? base first with
    | none => rfl
    | some d => exact groupedDigits?_append hc hrest _

theorem unsigned?_append {base : Nat} {c : Char} (hc : c ≠ '_') {cs : List Char} (hne : cs ≠ []) (hcs : ∀ c ∈ cs, c ≠ '_') :
    unsigned? base (cs ++ [c]) = (unsigned? base cs).bind fun n => (digit? base c).map fun d => n * base + d := by
  cases cs with
  | nil => exact absurd rfl hne
  | cons first cs =>
    unfold unsigned?
    simp only [List.cons_append]
    cases digit? base first with
    | none => rfl
    | some d => exact groupedDigits?_append hc (List.forall_mem_cons.mp hcs).2 d

/-- A number is read from its digits. -/
theorem unsigned?_digits {base : Nat} (hbase : 2 ≤ base) (hle : base ≤ 16) (n : Nat) :
    unsigned? base (digits base n) = some n := by
  have hall := digits_induction hbase
    (P := fun n cs => cs ≠ [] ∧ (∀ c ∈ cs, c ≠ '_') ∧ unsigned? base cs = some n) (fun d hd => ?_) (fun n cs d hd _ ih => ?_) n
  · exact hall.2.2
  · refine ⟨by simp, List.forall_mem_singleton.mpr (digitChar_ne (by omega)).2, ?_⟩
    show (digit? base (digitChar d)).bind (groupedDigits? base []) = some d
    rw [digit?_digitChar hle hd]
    rfl
  · obtain ⟨hne, hcs, hn⟩ := ih
    have hc : digitChar d ≠ '_' := (digitChar_ne (by omega)).2
    refine ⟨by simp, List.forall_mem_append.mpr ⟨hcs, List.forall_mem_singleton.mpr hc⟩, ?_⟩
    rw [unsigned?_append hc hne hcs, hn, Option.bind_some, digit?_digitChar hle hd, Option.map_some]

/-! ### Whole numbers -/

theorem trimWith_eq_self {blank : Char → Bool} {cs : List Char} (h : ∀ c ∈ cs, blank c = false) : trimWith blank cs = cs :=
  trimWith_of_bareEnds (bareEnds_of_forall h)

theorem dropBaseMark_ten (cs : List Char) : dropBaseMark 10 cs = cs := by
  unfold dropBaseMark
  split
  · simp [baseMark?]
  · rfl

/-- A whole number is read as it was written. -/
theorem integer?_decimalChars (i : Int) : integer? 10 (decimalChars i) = some i := by
  have hdigits : unsigned? 10 (digits 10 i.natAbs) = some i.natAbs := unsigned?_digits (by decide) (by decide) _
  unfold decimalChars
  by_cases hi : i < 0
  · have hpadding : ∀ c ∈ '-' :: digits 10 i.natAbs, isPadding c = false :=
      List.forall_mem_cons.mpr ⟨by decide, fun c hc => (isDigit_of_mem_digits _ c hc).2⟩
    rw [if_pos hi]
    unfold integer?
    rw [trimWith_eq_self hpadding]
    simp only [dropBaseMark_ten, hdigits, Option.map_some, Option.some.injEq, Int.ofNat_eq_natCast]
    omega
  · have hpadding : ∀ c ∈ digits 10 i.natAbs, isPadding c = false := fun c hc => (isDigit_of_mem_digits _ c hc).2
    rw [if_neg hi]
    unfold integer?
    rw [trimWith_eq_self hpadding]
    split
    · rename_i heq
      have hc := (isDigit_of_mem_digits i.natAbs '+' (by simp [heq])).1
      exact absurd hc (by decide)
    · rename_i heq
      have hc := (isDigit_of_mem_digits i.natAbs '-' (by simp [heq])).1
      exact absurd hc (by decide)
    · simp only [dropBaseMark_ten, hdigits, Option.map_some, Option.some.injEq, Int.ofNat_eq_natCast]
      omega

/-! ### Digits of ASCII as numbers -/

section
variable {base : Nat} {cs : List Char}

/-- The number that digits stand for when those of another number are in front of them. -/
def numberFrom (base n : Nat) (cs : List Char) : Nat := cs.foldl (fun n c => n * base + (c.toNat - '0'.toNat)) n

/-- A digit of ASCII below a base. -/
def IsDigitOf (base : Nat) (c : Char) : Prop := c.isDigit = true ∧ c.toNat - '0'.toNat < base

theorem digit?_of_isDigitOf {c : Char} (hc : IsDigitOf base c) : digit? base c = some (c.toNat - '0'.toNat) := by
  have hvalue : decimalDigit? c = some (c.toNat - '0'.toNat) :=
    forall_isDigit (P := fun c => decimalDigit? c = some (c.toNat - '0'.toNat)) (by decide) hc.1
  unfold digit?
  rw [hvalue]
  exact Option.filter_eq_some_iff.mpr ⟨rfl, by simpa using hc.2⟩

theorem groupedDigits?_of_isDigitOf (hcs : ∀ c ∈ cs, IsDigitOf base c) : ∀ n,
    groupedDigits? base cs n = some (numberFrom base n cs) := by
  induction cs with
  | nil => exact fun _ => rfl
  | cons c cs ih =>
    intro n
    obtain ⟨hc, hcs⟩ := List.forall_mem_cons.mp hcs
    rw [groupedDigits?_cons (ne_underscore_of_isDigit hc.1), digit?_of_isDigitOf hc]
    exact ih hcs _

theorem unsigned?_of_isDigitOf (hne : cs ≠ []) (hcs : ∀ c ∈ cs, IsDigitOf base c) :
    unsigned? base cs = some (numberFrom base 0 cs) := by
  cases cs with
  | nil => exact absurd rfl hne
  | cons c cs =>
    obtain ⟨hc, hcs⟩ := List.forall_mem_cons.mp hcs
    have hrest := groupedDigits?_of_isDigitOf hcs (0 * base + (c.toNat - '0'.toNat))
    show (digit? base c).bind (groupedDigits? base cs) = some (numberFrom base (0 * base + (c.toNat - '0'.toNat)) cs)
    rw [← hrest, digit?_of_isDigitOf hc, Nat.zero_mul, Nat.zero_add, Option.bind_some]

/-- Digits behind those of a number that is not zero are the digits of the number they make. -/
theorem digits_numberFrom (hcs : ∀ c ∈ cs, c.isDigit = true) : ∀ n, 0 < n →
    digits 10 (numberFrom 10 n cs) = digits 10 n ++ cs := by
  induction cs with
  | nil => exact fun n _ => (List.append_nil _).symm
  | cons c cs ih =>
    intro n hn
    obtain ⟨hc, hrest⟩ := List.forall_mem_cons.mp hcs
    obtain ⟨d, hd, rfl⟩ := exists_digitChar hc
    have hcode : (digitChar d).toNat - '0'.toNat = d := by
      have hall : ∀ d : Fin 10, (digitChar d).toNat - '0'.toNat = d.val := by decide
      exact hall ⟨d, hd⟩
    have hnext : digits 10 (n * 10 + d) = digits 10 n ++ [digitChar d] := by
      have hfront : (n * 10 + d) / 10 = n := by omega
      have hlast : (n * 10 + d) % 10 = d := by omega
      rw [digits_of_le (by decide) (by omega), hfront, hlast]
    show digits 10 (numberFrom 10 (n * 10 + ((digitChar d).toNat - '0'.toNat)) cs) = _
    rw [hcode, ih hrest _ (by omega), hnext, List.append_assoc, List.singleton_append]

/-- Digits without a zero in front are the digits of their number. -/
theorem digits_of_ne_zero {c : Char} (hc : c ≠ '0') (hcs : ∀ d ∈ c :: cs, d.isDigit = true) :
    digits 10 (numberFrom 10 0 (c :: cs)) = c :: cs := by
  obtain ⟨hdigit, hcs⟩ := List.forall_mem_cons.mp hcs
  have hfirst : c ≠ '0' → digits 10 (c.toNat - '0'.toNat) = [c] ∧ 0 < c.toNat - '0'.toNat := by
    obtain ⟨d, hd, rfl⟩ := exists_digitChar hdigit
    have hall : ∀ d : Fin 10, digitChar d ≠ '0' →
        (digitChar d).toNat - '0'.toNat = d.val ∧ 0 < d.val := by decide
    intro hne
    obtain ⟨hvalue, hpos⟩ := hall ⟨d, hd⟩ hne
    rw [hvalue]
    exact ⟨digits_of_lt hd, hpos⟩
  have hnumber : numberFrom 10 0 (c :: cs) = numberFrom 10 (c.toNat - '0'.toNat) cs := by
    unfold numberFrom
    rw [List.foldl_cons, Nat.zero_mul, Nat.zero_add]
  rw [hnumber, digits_numberFrom hcs _ (hfirst hc).2, (hfirst hc).1]
  rfl

/-- A whole number is read from digits of its base that have no padding around them. -/
theorem integer?_of_isDigitOf (hne : cs ≠ []) (hcs : ∀ c ∈ cs, IsDigitOf base c) (hmark : dropBaseMark base cs = cs) :
    integer? base cs = some (numberFrom base 0 cs : Int) := by
  have hpadding : ∀ c ∈ cs, isPadding c = false := fun c hc =>
    forall_isDigit (P := fun c => isPadding c = false) (by decide) (hcs c hc).1
  unfold integer?
  rw [trimWith_eq_self hpadding]
  split
  · exact absurd (hcs '+' (List.mem_cons_self ..)).1 (by decide)
  · exact absurd (hcs '-' (List.mem_cons_self ..)).1 (by decide)
  · rw [hmark, unsigned?_of_isDigitOf hne hcs]
    rfl

end

/-! ### Four digits of base sixteen -/

theorem paddedDigits_succ {base width : Nat} (hbase : 2 ≤ base) (hwidth : 0 < width) (n : Nat) :
    paddedDigits base (width + 1) n = paddedDigits base width (n / base) ++ [digitChar (n % base)] := by
  unfold paddedDigits
  by_cases hn : n < base
  · have hzeros : List.replicate (width - 1) '0' ++ ['0'] = List.replicate width '0' := by
      rw [← List.replicate_succ', Nat.sub_add_cancel hwidth]
    have hzero : digitChar 0 = '0' := rfl
    rw [digits_of_lt hn, Nat.div_eq_of_lt hn, digits_of_lt (by omega), Nat.mod_eq_of_lt hn, hzero]
    simp only [List.length_singleton, Nat.add_sub_cancel, hzeros]
  · rw [digits_of_le hbase (Nat.le_of_not_lt hn)]
    simp only [List.length_append, List.length_singleton, Nat.add_sub_add_right, List.append_assoc]

theorem paddedDigits_four {n : Nat} (h : n < 0x10000) : paddedDigits 16 4 n =
    [digitChar (n / 0x1000), digitChar (n / 0x100 % 0x10), digitChar (n / 0x10 % 0x10), digitChar (n % 0x10)] := by
  have hone : ∀ m, m < 16 → paddedDigits 16 1 m = [digitChar m] := fun m hm => by
    simp [paddedDigits, digits_of_lt hm]
  have htwice : n / 16 / 16 = n / 0x100 := Nat.div_div_eq_div_mul n 16 16
  have hthrice : n / 0x100 / 16 = n / 0x1000 := Nat.div_div_eq_div_mul n 0x100 16
  rw [paddedDigits_succ (by decide) (by decide), paddedDigits_succ (by decide) (by decide),
    paddedDigits_succ (by decide) (by decide), htwice, hthrice, hone _ (by omega)]
  rfl

end Curfew.Text
