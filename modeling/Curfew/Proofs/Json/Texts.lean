import Curfew.Json.Reader
import Curfew.Json.Writer
import Curfew.Proofs.Faults
import Curfew.Proofs.Text.Digits

/-! Texts written and read again. Every character is escaped so that it is read back as itself, a character beyond
sixteen bits from its two halves. -/

namespace Curfew
namespace Json

open Text

/-! ### Units -/

theorem unit?_paddedDigits {n : Nat} (h : n < 0x10000) (rest : List Char) :
    unit? (paddedDigits 16 4 n ++ rest) = some (n, rest) := by
  have digit : ∀ d, d < 16 → (if (digitChar d).toNat < 0x80 then digit? 16 (digitChar d) else none) = some d :=
    fun d hd => by rw [if_pos (digitChar_ne hd).1, digit?_digitChar (by decide) hd]
  have hvalue : (((n / 0x1000) * 16 + n / 0x100 % 0x10) * 16 + n / 0x10 % 0x10) * 16 + n % 0x10 = n := by omega
  rw [paddedDigits_four h]
  unfold unit?
  simp only [List.cons_append, List.nil_append, List.take_succ_cons, List.take_zero, List.mapM_cons, List.mapM_nil,
    digit _ (show n / 0x1000 < 16 by omega), digit _ (show n / 0x100 % 0x10 < 16 by omega),
    digit _ (show n / 0x10 % 0x10 < 16 by omega), digit _ (show n % 0x10 < 16 by omega)]
  simp [hvalue]

theorem after?_self (word rest : List Char) : after? word (word ++ rest) = some rest := by
  simp [after?]

theorem toNat_cases (c : Char) : c.toNat < 0xd800 ∨ 0xdfff < c.toNat ∧ c.toNat < 0x110000 := c.valid

theorem unitChar_toNat {c : Char} (h : c.toNat < 0x10000) (rest : List Char) : unitChar c.toNat rest = (c, rest) := by
  have hvalid := toNat_cases c
  have hhigh : Surrogate.isHigh c.toNat = false := by
    simp only [Surrogate.isHigh, Bool.and_eq_false_iff, decide_eq_false_iff_not]
    omega
  have hlow : Surrogate.isLow c.toNat = false := by
    simp only [Surrogate.isLow, Bool.and_eq_false_iff, decide_eq_false_iff_not]
    omega
  unfold unitChar
  simp [hhigh, hlow, Surrogate.character, Char.ofNat_toNat]

/-- Two halves behind one another are read as one character. -/
theorem unitChar_halves {high low : Nat} (hhigh : Surrogate.isHigh high = true) (hlow : Surrogate.isLow low = true)
    (rest : List Char) : unitChar high (unitEscape low ++ rest) = (Surrogate.ofPair high low, rest) := by
  have hunit : low < 0x10000 := by
    simp only [Surrogate.isLow, Bool.and_eq_true, decide_eq_true_eq] at hlow
    omega
  have hsecond : (after? ['\\', 'u'] (unitEscape low ++ rest)).bind unit? = some (low, rest) := by
    have hafter := after?_self ['\\', 'u'] (paddedDigits 16 4 low ++ rest)
    rw [unitEscape, List.cons_append, List.cons_append]
    exact (congrArg (Option.bind · unit?) hafter).trans (unit?_paddedDigits hunit rest)
  unfold unitChar
  simp only [hhigh, ↓reduceIte, hsecond, Option.filter_some, hlow]

theorem halves {n : Nat} (h : 0x10000 ≤ n) (hle : n < 0x110000) : ∃ high low, high = 0xd800 + (n - 0x10000) / 0x400 ∧
    low = 0xdc00 + (n - 0x10000) % 0x400 ∧ Surrogate.isHigh high = true ∧ Surrogate.isLow low = true ∧
    Surrogate.ofPair high low = Char.ofNat n := by
  refine ⟨_, _, rfl, rfl, ?_, ?_, ?_⟩
  · simp only [Surrogate.isHigh, Bool.and_eq_true, decide_eq_true_eq]
    omega
  · simp only [Surrogate.isLow, Bool.and_eq_true, decide_eq_true_eq]
    omega
  · have hcode : 0x10000 + (0xd800 + (n - 0x10000) / 0x400 - 0xd800) * 0x400 +
        (0xdc00 + (n - 0x10000) % 0x400 - 0xdc00) = n := by omega
    rw [Surrogate.ofPair, hcode]

/-! ### One character -/

variable {fuel : Nat} {c d : Char} {rest : List Char}

theorem text_escaped {cs : List Char} (h : escaped cs = .ok (d, rest)) :
    text (fuel + 1) ('\\' :: cs) = (text fuel rest).map fun read => (d :: read.1, read.2) := by
  rw [text, if_neg (by decide), if_pos rfl, h, ok_bind]
  dsimp only
  cases text fuel rest <;> rfl

theorem text_named (hc : namedEscape? c = some d) (hu : c ≠ 'u') :
    text (fuel + 1) ('\\' :: c :: rest) = (text fuel rest).map fun read => (d :: read.1, read.2) := by
  refine text_escaped ?_
  unfold escaped
  split
  · rename_i heq
    cases heq
    exact absurd rfl hu
  · rename_i heq
    cases heq
    rw [hc]
  · rename_i heq
    cases heq

theorem text_unitEscape {n : Nat} (h : n < 0x10000) {after : List Char} (hchar : unitChar n rest = (d, after)) :
    text (fuel + 1) (unitEscape n ++ rest) = (text fuel after).map fun read => (d :: read.1, read.2) := by
  rw [unitEscape, List.cons_append, List.cons_append]
  refine text_escaped ?_
  rw [escaped, unit?_paddedDigits h]
  exact congrArg Except.ok hchar

/-- A character is read from its escape, and the rest is read as it is. -/
theorem text_escapeChar (fuel : Nat) (c : Char) (rest : List Char) :
    text (fuel + 1) (escapeChar c ++ rest) = (text fuel rest).map fun read => (c :: read.1, read.2) := by
  by_cases hnamed : ∃ letter, letter ≠ 'u' ∧ namedEscape? letter = some c ∧ escapeChar c = ['\\', letter]
  · obtain ⟨letter, hu, hc, hescape⟩ := hnamed
    rw [hescape]
    exact text_named hc hu
  · -- What has no letter of its own is written as it is, as a unit or as a pair of them.
    have hne : ∀ letter d, letter ≠ 'u' → namedEscape? letter = some d → escapeChar d = ['\\', letter] → c ≠ d := by
      rintro letter d hu hd hescape rfl
      exact hnamed ⟨letter, hu, hd, hescape⟩
    have hquote : c ≠ '"' := hne '"' _ (by decide) rfl rfl
    have hslash : c ≠ '\\' := hne '\\' _ (by decide) rfl rfl
    have hescape : escapeChar c = if 0x20 ≤ c.toNat ∧ c.toNat < 0x7f then [c] else if c.toNat < 0x10000 then
        unitEscape c.toNat else unitEscape (0xd800 + (c.toNat - 0x10000) / 0x400) ++
          unitEscape (0xdc00 + (c.toNat - 0x10000) % 0x400) := by
      unfold escapeChar
      simp only [hquote, hslash, hne 'n' _ (by decide) rfl rfl, hne 'r' _ (by decide) rfl rfl,
        hne 't' _ (by decide) rfl rfl, hne 'b' _ (by decide) rfl rfl, hne 'f' _ (by decide) rfl rfl, ↓reduceIte]
    rw [hescape]
    split
    · rename_i hprintable
      rw [List.cons_append, text, if_neg hquote, if_neg hslash, if_neg (by omega), List.nil_append]
      cases text fuel rest <;> rfl
    · split
      · rename_i hunit
        exact text_unitEscape hunit (unitChar_toNat hunit rest)
      · rename_i hlarge
        have hvalid := toNat_cases c
        obtain ⟨high, low, hhigh, hlow, hishigh, hislow, hpair⟩ := halves (Nat.le_of_not_lt hlarge) (by omega)
        have hunit : high < 0x10000 := by
          simp only [Surrogate.isHigh, Bool.and_eq_true, decide_eq_true_eq] at hishigh
          omega
        rw [Char.ofNat_toNat] at hpair
        rw [← hhigh, ← hlow, List.append_assoc]
        exact text_unitEscape hunit (hpair ▸ unitChar_halves hishigh hislow rest)

/-! ### Whole texts -/

/-- A text is read from what is written of it, up to the closing quote. -/
theorem text_flatMap (cs : List Char) : ∀ {fuel : Nat}, cs.length < fuel →
    text fuel (cs.flatMap escapeChar ++ '"' :: rest) = .ok (cs, rest) := by
  induction cs with
  | nil =>
    intro fuel hfuel
    obtain ⟨fuel, rfl⟩ := Nat.exists_eq_add_of_lt hfuel
    rw [List.flatMap_nil, List.nil_append, text, if_pos rfl]
  | cons c cs ih =>
    intro fuel hfuel
    obtain ⟨fuel, rfl⟩ : ∃ n, fuel = n + 1 := ⟨fuel - 1, by omega⟩
    rw [List.flatMap_cons, List.append_assoc, text_escapeChar, ih (by simpa using hfuel)]
    rfl

theorem escapeChar_ne_nil (c : Char) : escapeChar c ≠ [] := by
  intro hnil
  have hread := text_escapeChar 1 c ['"']
  rw [hnil] at hread
  cases hread

theorem length_le_flatMap (cs : List Char) : cs.length ≤ (cs.flatMap escapeChar).length := by
  induction cs with
  | nil => simp
  | cons c cs ih =>
    have hpos := List.length_pos_iff.mpr (escapeChar_ne_nil c)
    rw [List.flatMap_cons, List.length_append, List.length_cons]
    omega

end Json

end Curfew
