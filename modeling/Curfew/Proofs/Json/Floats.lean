import Curfew.Number.Shortest
import Curfew.Proofs.Json.Numbers
import Mathlib.Data.List.DropRight

/-! Doubles written and read again. The text of a finite double is a number with a fraction or an exponent, and so it is
read as a double; the others are words. -/

namespace Curfew

open Text

/-! ### Numbers of JSON as doubles -/

namespace Binary64
variable {ds rest : List Char} {c : Char}

theorem takeDigits_cons (hc : c ≠ '_') (cs : List Char) : takeDigits (c :: cs) =
    match decimalDigit? c with
    | some n => (n :: (takeDigits cs).1, (takeDigits cs).2)
    | none => ([], c :: cs) :=
  takeDigits.eq_3 c cs fun _ _ h _ => hc h

/-- All digits are taken and no more. -/
theorem takeDigits_append (hds : ∀ c ∈ ds, c.isDigit = true) (hrest : takeDigits rest = ([], rest)) :
    ∃ ns, ns.length = ds.length ∧ takeDigits (ds ++ rest) = (ns, rest) := by
  induction ds with
  | nil => exact ⟨[], rfl, hrest⟩
  | cons c ds ih =>
    obtain ⟨hc, hds⟩ := List.forall_mem_cons.mp hds
    obtain ⟨ns, hlength, hns⟩ := ih hds
    obtain ⟨d, hd⟩ := decimalDigit?_of_isDigit hc
    refine ⟨d :: ns, by simp [hlength], ?_⟩
    rw [List.cons_append, takeDigits_cons (ne_underscore_of_isDigit hc), hd, hns]

theorem takeNumeral_append (hds : Json.IsDigits ds) (hrest : takeDigits rest = ([], rest)) :
    ∃ n ns, takeNumeral (ds ++ rest) = (n :: ns, rest) := by
  obtain ⟨ns, hlength, hns⟩ := takeDigits_append hds.2 hrest
  obtain ⟨c, ds, rfl⟩ := List.exists_cons_of_ne_nil hds.1
  obtain ⟨n, ns, rfl⟩ : ∃ n more, ns = n :: more := List.exists_cons_of_length_eq_add_one hlength
  refine ⟨n, ns, ?_⟩
  rw [← hns]
  unfold takeNumeral
  split
  · rename_i heq
    exact absurd (List.cons.inj heq).1 (ne_underscore_of_isDigit (hds.2 c List.mem_cons_self))
  · rfl

end Binary64

namespace Json
variable {n : Numeral}

open Binary64 (takeDigits takeDigits_cons exponent? ofChars?)

theorem Numeral.WellFormed.mem_chars (hn : n.WellFormed) :
    ∀ c ∈ n.chars, c.isDigit = true ∨ c ∈ ['-', '.', 'e', '+'] := by
  intro c hc
  obtain ⟨-, -, -, hwhole, -⟩ := hn.whole
  simp only [chars, List.mem_append] at hc
  rcases hc with ((hc | hc) | hc) | hc
  · rcases hn.sign with hsign | hsign <;> rw [hsign] at hc
    · cases hc
    · exact Or.inr (by simp [List.mem_singleton.mp hc])
  · exact Or.inl (hwhole.2 c hc)
  · rcases hn.fraction with hfraction | ⟨ds, hds, hfraction⟩ <;> rw [hfraction] at hc
    · cases hc
    · rcases List.mem_cons.mp hc with rfl | hc
      · exact Or.inr (by simp)
      · exact Or.inl (hds.2 c hc)
  · rcases hn.exponent with hexponent | ⟨sign, ds, hds, hsign, hexponent⟩ <;> rw [hexponent] at hc
    · cases hc
    · rcases List.mem_cons.mp hc with rfl | hc
      · exact Or.inr (by simp)
      · rcases List.mem_cons.mp hc with rfl | hc
        · exact Or.inr (by rcases hsign with rfl | rfl <;> simp)
        · exact Or.inl (hds.2 c hc)

theorem takeDigits_exponent (hn : n.WellFormed) : takeDigits n.exponent = ([], n.exponent) := by
  rcases hn.exponent with hexponent | ⟨sign, ds, -, -, hexponent⟩ <;> rw [hexponent]
  · rfl
  · exact takeDigits_cons (by decide) _

theorem takeDigits_fraction (hn : n.WellFormed) :
    takeDigits (n.fraction ++ n.exponent) = ([], n.fraction ++ n.exponent) := by
  rcases hn.fraction with hfraction | ⟨ds, -, hfraction⟩ <;> rw [hfraction]
  · exact takeDigits_exponent hn
  · exact takeDigits_cons (by decide) _

theorem exists_exponent? (hn : n.WellFormed) : ∃ i, exponent? n.exponent = some i := by
  rcases hn.exponent with hexponent | ⟨sign, ds, hds, hsign, hexponent⟩ <;> rw [hexponent]
  · exact ⟨0, rfl⟩
  · have hnone : takeDigits [] = ([], []) := rfl
    obtain ⟨d, more, hread⟩ := Binary64.takeNumeral_append hds hnone
    rw [List.append_nil] at hread
    rcases hsign with rfl | rfl <;>
    · rw [exponent?, if_neg (by decide)]
      simp only [hread]
      exact ⟨_, rfl⟩

/-- What stands behind the sign of a number is read as a double. -/
theorem exists_unsigned? (hn : n.WellFormed) (negative : Bool) :
    ∃ x, Binary64.unsigned? negative (n.whole ++ (n.fraction ++ n.exponent)) = some x := by
  obtain ⟨c, ds, hwhole, hdigits, -⟩ := hn.whole
  have hlower : ∀ word ∈ ["inf".toList, "infinity".toList, "nan".toList],
      (n.whole ++ (n.fraction ++ n.exponent)).map Char.toLower ≠ word := by
    have hall : ∀ d : Fin 10, ∀ word ∈ ["inf".toList, "infinity".toList, "nan".toList],
        word.head? ≠ some (digitChar d).toLower := by decide
    obtain ⟨d, hd, hc⟩ := exists_digitChar (hdigits.2 c (by rw [hwhole]; exact List.mem_cons_self))
    rintro word hword rfl
    exact hall ⟨d, hd⟩ _ hword (by rw [hwhole, hc]; rfl)
  obtain ⟨k, ks, hread⟩ := Binary64.takeNumeral_append hdigits (takeDigits_fraction hn)
  obtain ⟨i, hi⟩ := exists_exponent? hn
  have hinf : ¬((n.whole ++ (n.fraction ++ n.exponent)).map Char.toLower = "inf".toList ∨
      (n.whole ++ (n.fraction ++ n.exponent)).map Char.toLower = "infinity".toList) :=
    not_or.mpr ⟨hlower _ (by simp), hlower _ (by simp)⟩
  unfold Binary64.unsigned?
  dsimp only
  rw [if_neg (by simpa only [Bool.or_eq_true, decide_eq_true_eq] using hinf), if_neg (hlower _ (by simp)), hread]
  dsimp only
  rw [if_neg (by simp)]
  -- Without a fraction, what stands behind the digits must not begin with a point.
  rcases hn.fraction with hfraction | ⟨more, hmore, hfraction⟩
  · rcases hn.exponent with hexponent | ⟨sign, more, -, -, hexponent⟩ <;> rw [hexponent] at hi <;>
      rw [hfraction, hexponent, List.nil_append]
    · exact ⟨_, congrArg (Option.map _) hi⟩
    · exact ⟨_, congrArg (Option.map _) hi⟩
  · obtain ⟨m, ms, hmread⟩ := Binary64.takeNumeral_append hmore (takeDigits_exponent hn)
    rw [hfraction, List.cons_append]
    show ∃ x, Option.map _ (exponent? (Binary64.takeNumeral (more ++ n.exponent)).2) = some x
    rw [hmread]
    exact ⟨_, congrArg (Option.map _) hi⟩

theorem exists_ofChars? (hn : n.WellFormed) : ∃ x, ofChars? n.chars = some x := by
  have hpadding : ∀ c ∈ n.chars, isPadding c = false := by
    intro c hc
    rcases hn.mem_chars c hc with hc | hc
    · obtain ⟨d, hd, rfl⟩ := exists_digitChar hc
      exact (isDigit_digitChar hd).2
    · simp only [List.mem_cons, List.not_mem_nil, or_false] at hc
      rcases hc with rfl | rfl | rfl | rfl <;> decide
  obtain ⟨c, ds, hwhole, hdigits, -⟩ := hn.whole
  have hdigit : c.isDigit = true := hdigits.2 c (by rw [hwhole]; exact List.mem_cons_self)
  unfold ofChars?
  rw [trimWith_eq_self hpadding]
  unfold Numeral.chars
  rw [List.append_assoc, List.append_assoc]
  rcases hn.sign with hsign | hsign <;> rw [hsign]
  · obtain ⟨x, hx⟩ := exists_unsigned? hn false
    refine ⟨x, ?_⟩
    rw [List.nil_append]
    split
    · rename_i heq
      rw [hwhole] at heq
      obtain rfl := (List.cons.inj heq).1
      exact absurd hdigit (by decide)
    · rename_i heq
      rw [hwhole] at heq
      obtain rfl := (List.cons.inj heq).1
      exact absurd hdigit (by decide)
    · exact hx
  · exact exists_unsigned? hn true

end Json

/-! ### The text of a double -/

namespace Binary64

theorem ofDecimal_zero (negative : Bool) (scale : Int) : ofDecimal negative 0 scale = zero negative := rfl

theorem candidate?_inv {target : Binary64} {numerator denominator count digits : Nat} {point scale : Int}
    (h : candidate? target numerator denominator point count = some (digits, scale)) :
    ofDecimal false digits scale = target := by
  unfold candidate? at h
  dsimp only at h
  generalize (if point - (count : Int) < 0 then _ else _ : Nat × Nat) = scaled at h
  split at h
  · rename_i hbelow habove
    obtain ⟨hdigits, rfl⟩ := Prod.mk.inj (Option.some.inj h)
    rw [← hdigits]
    split
    · exact eq_of_beq habove
    · exact eq_of_beq hbelow
  · rename_i hbelow _
    obtain ⟨rfl, rfl⟩ := Prod.mk.inj (Option.some.inj h)
    exact eq_of_beq hbelow
  · rename_i _ habove
    obtain ⟨rfl, rfl⟩ := Prod.mk.inj (Option.some.inj h)
    exact eq_of_beq habove
  · cases h

/-- The shortest digits of what is not zero are not zero, unless there are none. -/
theorem shortest_cases {significand : Nat} (hs : significand ≠ 0) (exponent : Int) :
    shortest significand exponent = (0, 0) ∨ 0 < (shortest significand exponent).1 := by
  unfold shortest
  dsimp only
  generalize (if exponent < 0 then _ else _ : Nat × Nat) = fraction
  cases hfound : (List.range 17).findSome? _ with
  | none => exact Or.inl rfl
  | some found =>
    obtain ⟨digits, scale⟩ := found
    obtain ⟨count, -, hcandidate⟩ := List.exists_of_findSome?_eq_some hfound
    have htarget := candidate?_inv hcandidate
    -- The digits found are read as the double, and zero is read as the one with no significand.
    refine Or.inr (Nat.pos_of_ne_zero fun hzero => hs ?_)
    obtain rfl : digits = 0 := hzero
    rw [ofDecimal_zero] at htarget
    exact (finite.inj htarget).2.1.symm

/-- The number of JSON that a text is, which is none of whole numbers. -/
def IsDouble (cs : List Char) : Prop :=
  ∃ n : Json.Numeral, n.WellFormed ∧ n.chars = cs ∧ (n.fraction.isEmpty && n.exponent.isEmpty) = false

section
variable {sign ds : List Char} {c : Char}

theorem isDouble_zero (hsign : sign = [] ∨ sign = ['-']) : IsDouble (sign ++ "0.0".toList) := by
  refine ⟨{ sign, whole := ['0'], fraction := ['.', '0'], exponent := [] }, ⟨hsign, ?_, ?_, Or.inl rfl⟩, by simp [Json.Numeral.chars], rfl⟩
  · exact ⟨'0', [], rfl, ⟨List.cons_ne_nil _ _, by simp⟩, fun _ => rfl⟩
  · exact Or.inr ⟨['0'], ⟨List.cons_ne_nil _ _, by simp⟩, rfl⟩

theorem isDigit_of_mem_zeros {n : Nat} : ∀ d ∈ List.replicate n '0', d.isDigit = true := fun d hd => by
  rw [List.eq_of_mem_replicate hd]
  rfl

theorem isDouble_positional (hsign : sign = [] ∨ sign = ['-']) (hds : ∀ d ∈ c :: ds, d.isDigit = true) (hc : c ≠ '0')
    (point : Int) : IsDouble (sign ++ positional (c :: ds) point) := by
  unfold positional
  split
  · refine ⟨{ sign, whole := ['0'], fraction := '.' :: (List.replicate point.natAbs '0' ++ c :: ds), exponent := [] },
      ⟨hsign, ?_, ?_, Or.inl rfl⟩, by simp [Json.Numeral.chars], rfl⟩
    · exact ⟨'0', [], rfl, ⟨List.cons_ne_nil _ _, by simp⟩, fun _ => rfl⟩
    · exact Or.inr ⟨_, ⟨by simp, List.forall_mem_append.mpr ⟨isDigit_of_mem_zeros, hds⟩⟩, rfl⟩
  · dsimp only
    split
    · let zeros := List.replicate (point.toNat - (c :: ds).length) '0'
      refine ⟨{ sign, whole := c :: ds ++ zeros, fraction := ['.', '0'], exponent := [] },
        ⟨hsign, ?_, ?_, Or.inl rfl⟩, by simp [Json.Numeral.chars, zeros], rfl⟩
      · exact ⟨c, _, rfl, ⟨by simp, List.forall_mem_append.mpr ⟨hds, isDigit_of_mem_zeros⟩⟩, fun h => absurd h hc⟩
      · exact Or.inr ⟨['0'], ⟨List.cons_ne_nil _ _, by simp⟩, rfl⟩
    · rename_i hpos hlong
      obtain ⟨whole, hwhole⟩ : ∃ n, point.toNat = n + 1 := ⟨point.toNat - 1, by omega⟩
      have hfilled : (c :: ds).drop point.toNat ≠ [] := by
        rw [ne_eq, List.drop_eq_nil_iff]
        omega
      refine ⟨{ sign, whole := (c :: ds).take point.toNat, fraction := '.' :: (c :: ds).drop point.toNat, exponent := [] },
        ⟨hsign, ?_, ?_, Or.inl rfl⟩, by simp [Json.Numeral.chars], rfl⟩
      · refine ⟨c, ds.take whole, by rw [hwhole]; rfl, ⟨by rw [hwhole]; exact List.cons_ne_nil _ _, ?_⟩, fun h => absurd h hc⟩
        exact fun d hd => hds d (List.mem_of_mem_take hd)
      · exact Or.inr ⟨_, ⟨hfilled, fun d hd => hds d (List.mem_of_mem_drop hd)⟩, rfl⟩

theorem isDouble_scientific (hsign : sign = [] ∨ sign = ['-']) (hds : ∀ d ∈ c :: ds, d.isDigit = true)
    (point : Int) : IsDouble (sign ++ scientific (c :: ds) point) := by
  have hpadded : Json.IsDigits (paddedDigits 10 2 (point - 1).natAbs) := by
    obtain ⟨hne, hdigits⟩ := Json.isDigits_digits (point - 1).natAbs
    exact ⟨by simp [paddedDigits, hne], List.forall_mem_append.mpr ⟨isDigit_of_mem_zeros, hdigits⟩⟩
  have hexponent : (if point - 1 < 0 then '-' else '+') = '+' ∨ (if point - 1 < 0 then '-' else '+') = '-' := by
    split <;> simp
  obtain ⟨hc, hds⟩ := List.forall_mem_cons.mp hds
  have hwhole : ∃ d more, [c] = d :: more ∧ Json.IsDigits [c] ∧ (d = '0' → more = []) :=
    ⟨c, [], rfl, ⟨List.cons_ne_nil _ _, List.forall_mem_singleton.mpr hc⟩, fun _ => rfl⟩
  cases ds with
  | nil =>
    exact ⟨{ sign, whole := [c], fraction := [], exponent := 'e' :: _ :: paddedDigits 10 2 (point - 1).natAbs },
      ⟨hsign, hwhole, Or.inl rfl, Or.inr ⟨_, _, hpadded, hexponent, rfl⟩⟩, by simp [Json.Numeral.chars, scientific], rfl⟩
  | cons d ds =>
    exact ⟨{ sign, whole := [c], fraction := '.' :: d :: ds, exponent := 'e' :: _ :: paddedDigits 10 2 (point - 1).natAbs },
      ⟨hsign, hwhole, Or.inr ⟨_, ⟨List.cons_ne_nil _ _, hds⟩, rfl⟩, Or.inr ⟨_, _, hpadded, hexponent, rfl⟩⟩,
      by simp [Json.Numeral.chars, scientific], rfl⟩

end

/-- Without the zeros at their end, the digits of a number that is not zero begin with no zero. -/
theorem exists_kept {value : Nat} (h : 0 < value) : ∃ c ds, ((digits 10 value).reverse.dropWhile (· == '0')).reverse = c :: ds ∧
    c ≠ '0' ∧ ∀ d ∈ c :: ds, d.isDigit = true := by
  obtain ⟨c, more, hdigits, hpos⟩ := digits_head value
  have hkept : (digits 10 value).rdropWhile (· == '0') <+: digits 10 value := List.rdropWhile_prefix _ _
  have hne : (digits 10 value).rdropWhile (· == '0') ≠ [] := by
    rw [ne_eq, List.rdropWhile_eq_nil_iff, hdigits]
    exact fun hall => hpos h (by simpa using hall c List.mem_cons_self)
  obtain ⟨d, ds, hd⟩ := List.exists_cons_of_ne_nil hne
  rw [hd] at hkept
  refine ⟨d, ds, hd, ?_, fun x hx => (isDigit_of_mem_digits value x (hkept.subset hx)).1⟩
  rw [hdigits] at hkept
  rw [(List.cons_prefix_cons.mp hkept).1]
  exact hpos h

/-- The text of a finite double is a number with a fraction or an exponent. -/
theorem isDouble_chars (negative : Bool) (significand : Nat) (exponent : Int) :
    IsDouble (chars (.finite negative significand exponent)) := by
  unfold chars
  dsimp only
  generalize hchosen : (if negative then ['-'] else [] : List Char) = sign
  have hsign : sign = [] ∨ sign = ['-'] := by
    cases negative
    · exact Or.inl hchosen.symm
    · exact Or.inr hchosen.symm
  split
  · exact isDouble_zero hsign
  · rename_i hs
    rcases shortest_cases hs exponent with hnone | hpos
    · rw [hnone, digits_of_lt (by decide)]
      exact isDouble_zero hsign
    · obtain ⟨c, ds, hkept, hc, hds⟩ := exists_kept hpos
      rw [hkept]
      split
      · exact isDouble_positional hsign hds hc _
      · exact isDouble_scientific hsign hds _

/-- The double that is read from the text of a double. -/
def readAgain (x : Binary64) : Binary64 := (ofChars? x.chars).getD x

theorem ofChars?_chars (x : Binary64) : ofChars? x.chars = some x.readAgain := by
  obtain ⟨y, hy⟩ : ∃ y, ofChars? x.chars = some y := by
    cases x with
    | finite negative significand exponent =>
      obtain ⟨n, hn, hchars, -⟩ := isDouble_chars negative significand exponent
      rw [← hchars]
      exact Json.exists_ofChars? hn
    | infinite negative =>
      cases negative
      · exact ⟨.infinite false, by decide⟩
      · exact ⟨.infinite true, by decide⟩
    | nan => exact ⟨.nan, by decide⟩
  unfold readAgain
  rw [hy]
  rfl

end Binary64

/-! ### Reading -/

namespace Json
variable {rest : List Char}

/-- The text of a finite double is none of the words for the others. -/
theorem floatChars_finite (negative : Bool) (significand : Nat) (exponent : Int) :
    floatChars (.finite negative significand exponent) = Binary64.chars (.finite negative significand exponent) := by
  obtain ⟨n, hn, hchars, -⟩ := Binary64.isDouble_chars negative significand exponent
  obtain ⟨c, more, hdigit, hhead⟩ := hn.head
  have hword : ∀ word ∈ ["nan".toList, "inf".toList, "-inf".toList],
      Binary64.chars (.finite negative significand exponent) ≠ word := by
    rintro word hword heq
    rw [← hchars] at heq
    simp only [List.mem_cons, List.not_mem_nil, or_false] at hword
    rcases hword with rfl | rfl | rfl <;> rcases hhead with hhead | hhead <;> rw [hhead] at heq <;>
      simp at heq <;> rw [heq.1] at hdigit <;> exact absurd hdigit (by decide)
  unfold floatChars
  dsimp only
  rw [if_neg (hword _ (by simp)), if_neg (hword _ (by simp)), if_neg (hword _ (by simp))]

/-- The doubles that no digits stand for. -/
def specials : List Binary64 := [.nan, .infinite false, .infinite true]

theorem simple_special {x : Binary64} (hx : x ∈ specials) (rest : List Char) :
    simple (floatChars x ++ rest) = .ok (.float x.readAgain, rest) := by
  have hword : ∃ word ∈ words, word.1.toList = floatChars x ∧
      word.2 = ((Binary64.ofChars? x.chars).map Value.float).getD .null := by
    simp only [specials, List.mem_cons, List.not_mem_nil, or_false] at hx
    rcases hx with rfl | rfl | rfl
    · exact ⟨_, List.mem_of_getElem? (show words[3]? = _ from rfl), by decide, rfl⟩
    · exact ⟨_, List.mem_of_getElem? (show words[4]? = _ from rfl), by decide, rfl⟩
    · exact ⟨_, List.mem_of_getElem? (show words[5]? = _ from rfl), by decide, rfl⟩
  obtain ⟨word, hmem, hchars, hvalue⟩ := hword
  rw [Binary64.ofChars?_chars] at hvalue
  rw [← hchars, simple_word hmem, hvalue]
  rfl

/-- A double is read as one from what is written of it. -/
theorem simple_floatChars (h : Ends rest) (x : Binary64) :
    simple (floatChars x ++ rest) = .ok (.float x.readAgain, rest) := by
  cases x with
  | finite negative significand exponent =>
    obtain ⟨n, hn, hchars, hdouble⟩ := Binary64.isDouble_chars negative significand exponent
    have hread := Binary64.ofChars?_chars (.finite negative significand exponent)
    rw [← hchars, Numeral.chars] at hread
    rw [floatChars_finite, ← hchars, hn.simple_eq h, Numeral.value, if_neg (by simp [hdouble]), hread]
    rfl
  | infinite negative => cases negative <;> exact simple_special (by simp [specials]) rest
  | nan => exact simple_special (by simp [specials]) rest

end Json

end Curfew
