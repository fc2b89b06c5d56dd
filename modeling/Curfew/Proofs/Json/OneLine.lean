import Curfew.Proofs.Json.RoundTrip
import Mathlib.Data.List.TakeWhile

/-! Values on lines. What is written of a value is plain: there is no line end in it and no blank at its ends. A value
that is kept can be written. -/

namespace Curfew
namespace Json

open Text

/-- All characters are seen or are spaces, and they are ASCII. -/
def Plain (cs : List Char) : Prop := ∀ c ∈ cs, 0x20 ≤ c.toNat ∧ c.toNat < 0x7f

instance (cs : List Char) : Decidable (Plain cs) := List.decidableBAll _ cs

theorem plain_append {cs ds : List Char} : Plain (cs ++ ds) ↔ Plain cs ∧ Plain ds := List.forall_mem_append

theorem plain_cons {c : Char} {cs : List Char} : Plain (c :: cs) ↔ Plain [c] ∧ Plain cs := by
  rw [← List.singleton_append, plain_append]

theorem plain_flatMap {α : Type} {as : List α} {f : α → List Char} (h : ∀ a ∈ as, Plain (f a)) : Plain (as.flatMap f) := by
  intro c hc
  obtain ⟨a, ha, hc⟩ := List.mem_flatMap.mp hc
  exact h a ha c hc

/-! ### Texts and numbers -/

theorem plain_digitChar {d : Nat} (hd : d < 16) : Plain [digitChar d] := by
  have hall : ∀ d : Fin 16, Plain [digitChar d] := by decide
  exact hall ⟨d, hd⟩

theorem plain_digits {base : Nat} (hbase : 2 ≤ base) (hle : base ≤ 16) (n : Nat) : Plain (digits base n) :=
  digits_induction hbase (fun _ hd => plain_digitChar (by omega))
    (fun _ _ _ hd _ ih => plain_append.mpr ⟨ih, plain_digitChar (by omega)⟩) n

theorem plain_decimalChars (i : Int) : Plain (decimalChars i) := by
  have hdigits := plain_digits (by decide) (by decide : 10 ≤ 16) i.natAbs
  unfold decimalChars
  split
  · exact plain_cons.mpr ⟨by decide, hdigits⟩
  · exact hdigits

theorem plain_unitEscape (n : Nat) : Plain (unitEscape n) := by
  have hdigits := plain_digits (by decide) (by decide : 16 ≤ 16) n
  have hzeros : Plain (List.replicate (4 - (digits 16 n).length) '0') := fun c hc => by
    rw [List.eq_of_mem_replicate hc]
    decide
  have hpadded : Plain (paddedDigits 16 4 n) := plain_append.mpr ⟨hzeros, hdigits⟩
  exact plain_cons.mpr ⟨by decide, plain_cons.mpr ⟨by decide, hpadded⟩⟩

theorem plain_escapeChar (c : Char) : Plain (escapeChar c) := by
  unfold escapeChar
  dsimp only
  split_ifs with hquote hslash hfeed hreturn htab hback hform hseen hunit
  any_goals decide
  · exact List.forall_mem_singleton.mpr ⟨hseen.1, hseen.2⟩
  · exact plain_unitEscape _
  · exact plain_append.mpr ⟨plain_unitEscape _, plain_unitEscape _⟩

theorem plain_textChars (cs : List Char) : Plain (textChars cs) := by
  have hall := plain_flatMap fun c (_ : c ∈ cs) => plain_escapeChar c
  unfold textChars
  rw [List.cons_append, plain_cons, plain_append]
  exact ⟨by decide, hall, by decide⟩

theorem plain_floatChars (x : Binary64) : Plain (floatChars x) := by
  cases x with
  | finite negative significand exponent =>
    obtain ⟨n, hn, hchars, -⟩ := Binary64.isDouble_chars negative significand exponent
    rw [floatChars_finite, ← hchars]
    intro c hc
    rcases hn.mem_chars c hc with hdigit | hother
    · obtain ⟨d, hd, rfl⟩ := exists_digitChar hdigit
      exact plain_digitChar (Nat.lt_trans hd (by decide)) _ List.mem_cons_self
    · have hall : Plain ['-', '.', 'e', '+'] := by decide
      exact hall c hother
  | infinite negative => cases negative <;> exact show Plain _ by decide
  | nan => exact show Plain _ by decide

/-! ### Any value -/

theorem plain_joinWith {css : List (List Char)} (h : ∀ cs ∈ css, Plain cs) : Plain (joinWith Value.commaSpace css) := by
  induction css with
  | nil => simp [joinWith, Plain]
  | cons first more ih =>
    obtain ⟨hfirst, hmore⟩ := List.forall_mem_cons.mp h
    cases more with
    | nil => exact hfirst
    | cons next more =>
      rw [joinWith, plain_append, plain_append]
      exact ⟨⟨hfirst, by decide⟩, ih hmore⟩

theorem plain_bracketed {opening closing : Char} {css : List (List Char)} (hopening : Plain [opening])
    (hclosing : Plain [closing]) (h : ∀ cs ∈ css, Plain cs) : Plain (Value.bracketed opening closing css) := by
  unfold Value.bracketed
  rw [List.cons_append, plain_cons, plain_append]
  exact ⟨hopening, plain_joinWith h, hclosing⟩

mutual

/-- What can be written is plain. -/
theorem plain_chars : ∀ {v : Value} {cs : List Char}, chars v = .ok cs → Plain cs
  | .null, _, h => by
    cases h
    decide
  | .bool true, _, h | .bool false, _, h => by
    cases h
    decide
  | .int i, _, h => by
    rw [chars] at h
    exact Except.ok.inj h ▸ plain_decimalChars i
  | .float x, _, h => by
    rw [chars] at h
    exact Except.ok.inj h ▸ plain_floatChars x
  | .list vs, _, h | .tuple vs, _, h => by
    rw [chars] at h
    obtain ⟨css, hcss, h⟩ := bind_eq_ok.mp h
    exact Except.ok.inj h ▸ plain_bracketed (by decide) (by decide) (plain_itemChars hcss)
  | .map entries, _, h => by
    rw [chars] at h
    obtain ⟨css, hcss, h⟩ := bind_eq_ok.mp h
    exact Except.ok.inj h ▸ plain_bracketed (by decide) (by decide) (plain_entryChars hcss)
  | .text _, _, h | .bytes _, _, h | .time _, _, h | .set _, _, h => by
    cases h
    exact plain_textChars _

theorem plain_itemChars : ∀ {vs : List Value} {css : List (List Char)}, itemChars vs = .ok css → ∀ cs ∈ css, Plain cs
  | [], _, h => by
    cases h
    simp
  | item :: vs, _, h => by
    obtain ⟨first, more, rfl, hfirst, hmore⟩ := itemChars_cons h
    exact List.forall_mem_cons.mpr ⟨plain_chars hfirst, plain_itemChars hmore⟩

theorem plain_entryChars : ∀ {entries : List (Value × Value)} {css : List (List Char)}, entryChars entries = .ok css →
    ∀ cs ∈ css, Plain cs
  | [], _, h => by
    cases h
    simp
  | (key, v) :: entries, _, h => by
    obtain ⟨name, first, more, -, rfl, hfirst, hmore⟩ := entryChars_cons h
    have hpair : Plain (pairChars name first) :=
      plain_append.mpr ⟨plain_textChars name, plain_cons.mpr ⟨by decide, plain_cons.mpr ⟨by decide, plain_chars hfirst⟩⟩⟩
    exact List.forall_mem_cons.mpr ⟨hpair, plain_entryChars hmore⟩

end

mutual

/-- A value that is kept can be written. -/
theorem exists_chars : ∀ {v : Value}, Kept v → ∃ cs, chars v = .ok cs
  | .null, _ | .bool true, _ | .bool false, _ | .int _, _ | .text _, _ => ⟨_, rfl⟩
  | .list vs, hv => by
    obtain ⟨css, hcss⟩ := exists_itemChars hv
    exact ⟨Value.bracketed '[' ']' css, by rw [chars, hcss]; rfl⟩
  | .map entries, hv => by
    obtain ⟨css, hcss⟩ := exists_entryChars hv.2
    exact ⟨Value.bracketed '\x7b' '\x7d' css, by rw [chars, hcss]; rfl⟩
  | .float _, hv | .bytes _, hv | .time _, hv | .tuple _, hv | .set _, hv => absurd hv (by simp [Kept])

theorem exists_itemChars : ∀ {vs : List Value}, AllKept vs → ∃ css, itemChars vs = .ok css
  | [], _ => ⟨[], rfl⟩
  | item :: vs, hvs => by
    obtain ⟨cs, hcs⟩ := exists_chars hvs.1
    obtain ⟨css, hcss⟩ := exists_itemChars hvs.2
    exact ⟨cs :: css, by rw [itemChars, hcs, hcss]; rfl⟩

theorem exists_entryChars : ∀ {entries : List (Value × Value)}, EntriesKept entries → ∃ css, entryChars entries = .ok css
  | [], _ => ⟨[], rfl⟩
  | (key, v) :: entries, hentries => by
    obtain ⟨⟨name, rfl⟩, hv, hrest⟩ := hentries
    obtain ⟨cs, hcs⟩ := exists_chars hv
    obtain ⟨css, hcss⟩ := exists_entryChars hrest
    exact ⟨pairChars name.toList cs :: css, by rw [entryChars, keyChars, hcs, hcss]; rfl⟩

end

/-! ### Lines -/

/-- Nothing is left of what is blank, and only of that. -/
theorem trimWith_eq_nil {blank : Char → Bool} {cs : List Char} : trimWith blank cs = [] ↔ ∀ c ∈ cs, blank c = true := by
  unfold trimWith
  rw [List.reverse_eq_nil_iff, List.dropWhile_eq_nil_iff]
  constructor
  · intro hall
    rw [← List.dropWhile_eq_nil_iff]
    refine Classical.byContradiction fun hne => ?_
    have hhead := List.head_dropWhile_not blank hne
    rw [hall _ (List.mem_reverse.mpr (List.head_mem hne))] at hhead
    cases hhead
  · exact fun hall c hc => hall c ((List.dropWhile_suffix blank).subset (List.mem_reverse.mp hc))

theorem trim_filled {cs : List Char} {c : Char} (hmem : c ∈ cs) (hc : isBlank c = false) : (trim cs).isEmpty = false := by
  rw [List.isEmpty_eq_false_iff]
  intro hnil
  rw [trimWith_eq_nil.mp hnil c hmem] at hc
  cases hc

/-- What is written of a value. -/
def written (v : Value) : List Char := (chars v).toOption.getD []

theorem written_eq {v : Value} {cs : List Char} (h : chars v = .ok cs) : written v = cs := by
  unfold written
  rw [h]
  rfl

theorem chars_eq_written {v : Value} (hv : Kept v) : chars v = .ok (written v) := by
  obtain ⟨cs, hcs⟩ := exists_chars hv
  rw [written_eq hcs, hcs]

theorem plain_written {v : Value} (hv : Kept v) : Plain (written v) := plain_chars (chars_eq_written hv)

theorem Plain.no_lineEnd {cs : List Char} (h : Plain cs) : '\n' ∉ cs ∧ '\r' ∉ cs :=
  ⟨fun hmem => absurd (h _ hmem) (by decide), fun hmem => absurd (h _ hmem) (by decide)⟩

/-- What is written of a value is not blank, whatever stands around it. -/
theorem trim_line {v : Value} {cs : List Char} (h : chars v = .ok cs) (front rest : List Char) :
    (trim (front ++ (cs ++ rest))).isEmpty = false := by
  obtain ⟨c, more, heq, hspace, -⟩ := starts_chars h
  have hseen : 0x20 ≤ c.toNat ∧ c.toNat < 0x7f := plain_chars h c (by simp [heq])
  have hne : c.toNat ≠ 0x20 := fun hcode => absurd (Char.toNat_inj.mp (show c.toNat = ' '.toNat from hcode)) (by
    rintro rfl
    exact absurd hspace (by decide))
  refine trim_filled (c := c) (by simp [heq]) ?_
  simp only [isBlank, inRanges, blankRanges, List.any_cons, List.any_nil, Bool.or_eq_false_iff, Bool.and_eq_false_iff,
    decide_eq_false_iff_not, and_true]
  omega

end Json

end Curfew
