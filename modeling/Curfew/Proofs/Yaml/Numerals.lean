import Curfew.Proofs.Yaml.OneKey
import Mathlib.Data.List.TakeWhile

/-! Bare digits. They are a whole number, in base eight where they begin with a zero, or else a text: a zero in front of a
digit that base eight does not have makes no number. -/

namespace Curfew

/-! ### Digits as scalars -/

namespace Yaml

section
variable {digits : List Char} (hdigits : ∀ c ∈ digits, c.isDigit = true)
include hdigits

theorem not_mem_digits {c : Char} (hc : c.isDigit = false) : c ∉ digits := fun hmem => by
  rw [hdigits c hmem] at hc
  cases hc

theorem ne_cons_digits {c : Char} (hc : c.isDigit = false) (rest : List Char) : digits ≠ c :: rest := by
  rintro rfl
  exact not_mem_digits hdigits hc (List.mem_cons_self ..)

namespace Tag

theorem isWord_digits (words : List String)
    (hwords : (words.all fun word => word.toList.head?.any fun c => !c.isDigit) = true) : isWord words digits = false := by
  unfold isWord
  rw [List.any_eq_false]
  intro word hword heq
  have hhead := List.all_eq_true.mp hwords word hword
  rw [beq_iff_eq.mp heq] at hhead
  cases digits with
  | nil => cases hhead
  | cons c rest => simp [(List.forall_mem_cons.mp hdigits).1] at hhead

theorem dropLastBreak_digits : dropLastBreak digits = digits := by
  unfold dropLastBreak
  split
  · rename_i rest heq
    exact absurd (List.mem_reverse.mp (heq ▸ List.mem_cons_self ..)) (not_mem_digits hdigits (by decide))
  · rfl

theorem dropSign_digits : dropSign digits = digits := by
  unfold dropSign
  split
  · exact absurd rfl (ne_cons_digits hdigits (by decide) _)
  · exact absurd rfl (ne_cons_digits hdigits (by decide) _)
  · rfl

/-- Without a point there is no float. -/
theorem isFloat_digits : isFloat digits = false := by
  have hpoint : ∀ rest, digits ≠ '.' :: rest := ne_cons_digits hdigits (by decide)
  have hpointed : isPointed digits = false := by
    have hdrop : digits.dropWhile (· != '.') = [] := by
      rw [List.dropWhile_eq_nil_iff]
      exact fun c hc => bne_iff_ne.mpr fun heq => not_mem_digits hdigits (by decide) (heq ▸ hc)
    unfold isPointed
    simp only [hdrop]
  have hfraction : isFraction digits = false := by
    unfold isFraction
    split
    · exact absurd rfl (hpoint _)
    · rfl
  unfold isFloat isInfinity isNotANumber
  rw [dropSign_digits hdigits, hpointed, hfraction]
  simp [hpoint]

end Tag

/-- Without a dash there is no time. -/
theorem TimeText.ofChars?_digits : TimeText.ofChars? digits = none := by
  have hdash : ∀ n cs, When.number? 4 digits = some (n, cs) → When.expect? '-' cs = none := by
    intro n cs hnumber
    have hcs : cs = digits.drop 4 := by
      unfold When.number? at hnumber
      dsimp only at hnumber
      split at hnumber
      · cases hnumber
        rfl
      · cases hnumber
    cases cs with
    | nil => rfl
    | cons c rest =>
      have hmem : c ∈ digits := List.mem_of_mem_drop (hcs ▸ List.mem_cons_self ..)
      refine if_neg ?_
      rintro rfl
      exact not_mem_digits hdigits (by decide) hmem
  unfold TimeText.ofChars?
  cases hnumber : When.number? 4 digits with
  | none => rfl
  | some found =>
    show (When.expect? '-' found.2).bind _ = none
    rw [hdash found.1 found.2 hnumber]
    rfl

/-- Digits are a number, or else a text. -/
theorem Tag.ofText_digits (hne : digits ≠ []) : ofText digits = if isInt digits then .int else .text := by
  have hmerge : digits ≠ ['<', '<'] := ne_cons_digits hdigits (by decide) _
  have hdefault : digits ≠ ['='] := ne_cons_digits hdigits (by decide) _
  unfold ofText
  simp only [dropLastBreak_digits hdigits, isFloat_digits hdigits, TimeText.ofChars?_digits hdigits,
    isWord_digits hdigits truthWords (by decide),
    isWord_digits hdigits nullWords (by decide),
    isWord_digits hdigits markWords (by decide)]
  cases isInt digits <;> simp [hmerge, hdefault, hne]

end

/-! ### Names as scalars -/

namespace Numeral

/-- A zero, and behind it digits of base eight, one at least. -/
def isOctal : List Char → Bool
  | '0' :: rest => !rest.isEmpty && rest.all fun c => '0' ≤ c && c ≤ '7'
  | _ => false

/-- The name that digits without quotes give. -/
def name (digits : List Char) : List Char :=
  if isOctal digits then Text.digits 10 (Text.numberFrom 8 0 digits) else digits

end Numeral

section
variable {d : Char} {digits rest : List Char}

theorem filter_digits (hdigits : ∀ c ∈ digits, c.isDigit = true) : digits.filter (· != '_') = digits :=
  List.filter_eq_self.mpr fun c hc => bne_iff_ne.mpr (Text.ne_underscore_of_isDigit (hdigits c hc))

theorem Tag.isInt_zero (hdigits : ∀ c ∈ '0' :: d :: rest, c.isDigit = true) :
    isInt ('0' :: d :: rest) = Numeral.isOctal ('0' :: d :: rest) := by
  have hrest := (List.forall_mem_cons.mp hdigits).2
  have hmark : isInt ('0' :: d :: rest) = isRun isOctalChar (d :: rest) := by
    rcases OneKey.isDigit_cases (List.forall_mem_cons.mp hrest).1 with
      rfl | rfl | rfl | rfl | rfl | rfl | rfl | rfl | rfl | rfl <;> rfl
  have hchar : ∀ c ∈ d :: rest, isOctalChar c = ('0' ≤ c && c ≤ '7') := fun c hc => by
    have hunder : (c == '_') = false := beq_eq_false_iff_ne.mpr (Text.ne_underscore_of_isDigit (hrest c hc))
    rw [isOctalChar, hunder, Bool.or_false]
  have hall : (d :: rest).all isOctalChar = (d :: rest).all fun c => '0' ≤ c && c ≤ '7' := by
    rw [Bool.eq_iff_iff, List.all_eq_true, List.all_eq_true]
    exact forall₂_congr fun c hc => by rw [hchar c hc]
  rw [hmark, isRun, hall]
  rfl

theorem Scalar.intOf_zero {i : Int} (hdigits : ∀ c ∈ '0' :: d :: rest, c.isDigit = true)
    (h : Text.integer? 8 ('0' :: d :: rest) = some i) : intOf ('0' :: d :: rest) = .ok i := by
  unfold intOf
  simp only [filter_digits hdigits, Tag.dropSign_digits hdigits]
  rcases OneKey.isDigit_cases (List.forall_mem_cons.mp (List.forall_mem_cons.mp hdigits).2).1 with
    rfl | rfl | rfl | rfl | rfl | rfl | rfl | rfl | rfl | rfl <;> simp [h, Except.map]

theorem Scalar.intOf_of_ne_zero {i : Int} (hd : d ≠ '0') (hdigits : ∀ c ∈ d :: rest, c.isDigit = true)
    (h : Text.integer? 10 (d :: rest) = some i) : intOf (d :: rest) = .ok i := by
  have hcolon : (d :: rest).contains ':' = false :=
    Bool.eq_false_iff.mpr fun h => not_mem_digits hdigits (by decide) (List.contains_iff_mem.mp h)
  have hsign : (d :: rest).head? ≠ some '-' := fun h =>
    ne_cons_digits hdigits (c := '-') (by decide) rest (by simpa using h)
  unfold intOf
  simp only [filter_digits hdigits, Tag.dropSign_digits hdigits, if_neg hsign]
  split <;> simp_all [Except.map]

/-! ### Their values -/

namespace Numeral

theorem isDigitOf_eight (hdigits : ∀ c ∈ digits, c.isDigit = true) (hoctal : isOctal digits = true) :
    ∀ c ∈ digits, Text.IsDigitOf 8 c := by
  have hvalue : ∀ c : Char, c.isDigit = true → (c ≤ '7') → c.toNat - '0'.toNat < 8 := fun c hc =>
    Text.forall_isDigit (P := fun c => c ≤ '7' → c.toNat - '0'.toNat < 8) (by decide) hc
  unfold isOctal at hoctal
  split at hoctal
  · rename_i rest
    simp only [Bool.and_eq_true, List.all_eq_true, decide_eq_true_eq] at hoctal
    obtain ⟨hzero, hrest⟩ := List.forall_mem_cons.mp hdigits
    refine List.forall_mem_cons.mpr ⟨⟨hzero, by decide⟩, fun c hc => ?_⟩
    exact ⟨hrest c hc, hvalue c (hrest c hc) (hoctal.2 c hc).2⟩
  · cases hoctal

theorem isDigitOf_ten (hdigits : ∀ c ∈ digits, c.isDigit = true) : ∀ c ∈ digits, Text.IsDigitOf 10 c := fun c hc =>
  ⟨hdigits c hc, Text.forall_isDigit (P := fun c => c.toNat - '0'.toNat < 10) (by decide) (hdigits c hc)⟩

/-- In base eight digits are a number of other digits. -/
theorem intOf_of_isOctal (hdigits : ∀ c ∈ digits, c.isDigit = true) (hoctal : isOctal digits = true) :
    Tag.isInt digits = true ∧ Scalar.intOf digits = .ok (Text.numberFrom 8 0 digits) := by
  have hof := isDigitOf_eight hdigits hoctal
  unfold isOctal at hoctal
  split at hoctal
  · rename_i rest
    cases rest with
    | nil => cases hoctal
    | cons d rest =>
      have hmark : Text.dropBaseMark 8 ('0' :: d :: rest) = '0' :: d :: rest := by
        rcases OneKey.isDigit_cases (List.forall_mem_cons.mp (List.forall_mem_cons.mp hdigits).2).1 with
          rfl | rfl | rfl | rfl | rfl | rfl | rfl | rfl | rfl | rfl <;> rfl
      have hnumber := Text.integer?_of_isDigitOf (by simp) hof hmark
      exact ⟨(Tag.isInt_zero hdigits).trans hoctal, Scalar.intOf_zero hdigits hnumber⟩
  · cases hoctal

/-- Otherwise a number has the digits that it is read from. -/
theorem intOf_of_not_isOctal (hne : digits ≠ []) (hdigits : ∀ c ∈ digits, c.isDigit = true)
    (hoctal : isOctal digits = false) (hint : Tag.isInt digits = true) :
    ∃ n : Nat, Scalar.intOf digits = .ok n ∧ Text.digits 10 n = digits := by
  cases digits with
  | nil => exact absurd rfl hne
  | cons d rest =>
    by_cases hd : d = '0'
    · subst hd
      cases rest with
      | nil => exact ⟨0, rfl, Text.digits_of_lt (by decide)⟩
      | cons c rest =>
        rw [Tag.isInt_zero hdigits, hoctal] at hint
        cases hint
    · have hnumber := Text.integer?_of_isDigitOf hne (isDigitOf_ten hdigits) (Text.dropBaseMark_ten _)
      exact ⟨_, Scalar.intOf_of_ne_zero hd hdigits hnumber, Text.digits_of_ne_zero hd hdigits⟩

/-- The digits of a number in base eight begin with a zero, and its digits in base ten do not. -/
theorem name_eq_self : name digits = digits ↔ isOctal digits = false := by
  unfold name
  cases hoctal : isOctal digits with
  | false => simp
  | true =>
    simp only [↓reduceIte, Bool.true_eq_false, iff_false]
    intro heq
    unfold isOctal at hoctal
    split at hoctal
    · rename_i rest
      obtain ⟨c, more, hmore, hc⟩ := Text.digits_head (Text.numberFrom 8 0 ('0' :: rest))
      rw [heq] at hmore
      obtain ⟨rfl, rfl⟩ := List.cons.inj hmore
      have hzero : Text.numberFrom 8 0 ('0' :: rest) = 0 := Nat.eq_zero_of_not_pos fun hpos => hc hpos rfl
      rw [hzero, Text.digits_of_lt (by decide)] at heq
      obtain rfl := (List.cons.inj heq).2
      cases hoctal
    · cases hoctal

end Numeral

end

end Yaml
end Curfew
