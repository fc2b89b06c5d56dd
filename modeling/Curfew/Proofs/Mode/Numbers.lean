import Curfew.Mode.Setting
import Curfew.Proofs.Config.Reordered
import Curfew.Proofs.Mode.Sequence
import Curfew.Proofs.Mode.Spelling
import Curfew.Proofs.Text.Digits

/-! Numbers as modes. In a config a number stands for its octal digits, which give the mode of that number whatever the
entry has, and are refused if the number is negative or has a bit beyond the twelve. Where a mode is asked for at once, a
number gives its low twelve bits. -/

namespace Curfew

/-! ### Octal digits -/

section
variable {cs : List Char} {n : Nat}

theorem octalDigit_digitChar {d : Nat} (hd : d < 8) :
    ('0' ≤ Text.digitChar d ∧ Text.digitChar d ≤ '7') ∧ (Text.digitChar d).toNat - '0'.toNat = d := by
  have hall : ∀ d : Fin 8, ('0' ≤ Text.digitChar d ∧ Text.digitChar d ≤ '7') ∧ (Text.digitChar d).toNat - '0'.toNat = d.val := by
    decide
  exact hall ⟨d, hd⟩

theorem octalDigits_digits (n : Nat) :
    octalValue (Text.digits 8 n) = n ∧ ∀ c ∈ Text.digits 8 n, '0' ≤ c ∧ c ≤ '7' := by
  refine Text.digits_induction (by decide) (P := fun n cs => octalValue cs = n ∧ ∀ c ∈ cs, '0' ≤ c ∧ c ≤ '7')
    (fun d hd => ?_) (fun n cs d hd _ ih => ?_) n
  · refine ⟨?_, List.forall_mem_singleton.mpr (octalDigit_digitChar hd).1⟩
    simp only [octalValue, List.foldl_cons, List.foldl_nil, (octalDigit_digitChar hd).2]
    omega
  · refine ⟨?_, List.forall_mem_append.mpr ⟨ih.2, List.forall_mem_singleton.mpr (octalDigit_digitChar hd).1⟩⟩
    have hvalue := ih.1
    unfold octalValue at hvalue ⊢
    rw [List.foldl_append, hvalue]
    simp only [List.foldl_cons, List.foldl_nil, (octalDigit_digitChar hd).2]

/-- Zeros in front do not count. -/
theorem octalValue_paddedDigits (width n : Nat) : octalValue (Text.paddedDigits 8 width n) = n := by
  have hzeros : ∀ count : Nat, octalValue (List.replicate count '0' ++ Text.digits 8 n) = octalValue (Text.digits 8 n) := by
    intro count
    induction count with
    | zero => rfl
    | succ count ih => exact ih
  exact (hzeros _).trans (octalDigits_digits n).1

theorem octalDigits_paddedDigits (width n : Nat) : ∀ c ∈ Text.paddedDigits 8 width n, '0' ≤ c ∧ c ≤ '7' := by
  refine List.forall_mem_append.mpr ⟨fun c hc => ?_, (octalDigits_digits n).2⟩
  obtain rfl := List.eq_of_mem_replicate hc
  exact ⟨by decide, by decide⟩

/-- Four digits are enough for twelve bits and for no more. -/
theorem isOctal_paddedDigits (n : Nat) : isOctal (Text.paddedDigits 8 4 n) = true ↔ n ≤ 0o7777 := by
  have hlength : (Text.digits 8 n).length ≤ 4 ↔ n ≤ 0o7777 := by
    rw [Text.length_digits_le (by decide) (by decide), Text.length_digits_le (by decide) (by decide),
      Text.length_digits_le (by decide) (by decide), Text.length_digits_le_one (by decide)]
    omega
  rw [← hlength]
  unfold isOctal
  simp only [Bool.and_eq_true, List.all_eq_true, decide_eq_true_eq]
  rw [and_assoc, and_iff_right (octalDigits_paddedDigits 4 n)]
  simp only [Text.paddedDigits, List.length_append, List.length_replicate]
  omega

end

/-! ### Digits in clauses -/

theorem mem_joinWith {separator : List Char} {pieces : List (List Char)} {c : Char}
    (h : c ∈ Text.joinWith separator pieces) : c ∈ separator ∨ ∃ piece ∈ pieces, c ∈ piece := by
  induction pieces with
  | nil => cases h
  | cons first rest ih =>
    cases rest with
    | nil => exact Or.inr ⟨first, List.mem_singleton_self first, h⟩
    | cons next rest =>
      rw [Text.joinWith, List.mem_append, List.mem_append] at h
      rcases h with (h | h) | h
      · exact Or.inr ⟨first, List.mem_cons_self, h⟩
      · exact Or.inl h
      · refine (ih h).imp_right ?_
        rintro ⟨piece, hpiece, hc⟩
        exact ⟨piece, List.mem_cons_of_mem first hpiece, hc⟩

theorem Clause.digit_not_mem_chars (c : Clause) : ∀ symbol ∈ c.chars, ¬('0' ≤ symbol ∧ symbol ≤ '7') := by
  have hclass : ∀ source : Class, ¬('0' ≤ source.symbol ∧ source.symbol ≤ '7') := fun source => by cases source <;> decide
  refine List.forall_mem_append.mpr ⟨List.forall_mem_map.mpr fun w _ => ?_, fun symbol h => ?_⟩
  · cases w with
    | only source => exact hclass source
    | all => decide
  · obtain ⟨a, -, ha⟩ := List.mem_flatMap.mp h
    rcases List.mem_cons.mp ha with rfl | ha
    · exact a.operator.symbol_ne.2
    · obtain ⟨p, -, rfl⟩ := List.mem_map.mp ha
      cases p with
      | copy source => exact hclass source
      | _ => decide

namespace Mode
variable {text : String}

/-- One to four octal digits are a mode, whatever there is. -/
theorem compile_octal (hends : Text.BareEnds Text.isBlank text.toList) (h : isOctal text.toList = true) (mode : Mode)
    (isDirectory : Bool) : compile text mode isDirectory = .ok (BitVec.ofNat 12 (octalValue text.toList)) := by
  have htrim : Text.trim text.toList = text.toList := Text.trimWith_of_bareEnds hends
  refine compile_eq_ok.mpr ⟨.octal (BitVec.ofNat 12 (octalValue text.toList)), ?_, rfl⟩
  unfold read Expression.ofChars
  rw [htrim, if_pos h]
  rfl

/-- No clause holds a digit, so a text with one is refused unless it is octal digits. -/
theorem exists_refusal_of_digit (hends : Text.BareEnds Text.isBlank text.toList) (h : isOctal text.toList = false) {c : Char}
    (hmem : c ∈ text.toList) (hc : '0' ≤ c ∧ c ≤ '7') :
    ∃ fault, ∀ mode isDirectory, compile text mode isDirectory = .error { expression := text, fault } := by
  have htrim : Text.trim text.toList = text.toList := Text.trimWith_of_bareEnds hends
  cases hread : Expression.ofChars text.toList with
  | error fault =>
    refine ⟨fault, fun mode isDirectory => compile_eq_error.mpr ?_⟩
    rw [read, htrim, hread, String.ofList_toList]
    rfl
  | ok e =>
    have hspells := Expression.ofChars_eq_ok.mp hread
    cases e with
    | octal m => exact absurd (h.symm.trans hspells.1) Bool.false_ne_true
    | symbolic clauses =>
      obtain ⟨-, -, hchars⟩ := hspells
      rw [hchars] at hmem
      rcases mem_joinWith hmem with hcomma | ⟨piece, hpiece, hpieceMem⟩
      · rw [List.mem_singleton.mp hcomma] at hc
        exact absurd hc (by decide)
      · obtain ⟨clause, -, rfl⟩ := List.mem_map.mp hpiece
        exact absurd hc (clause.digit_not_mem_chars c hpieceMem)

end Mode

/-! ### Numbers in a config -/

namespace ModeSpec

/-- What a config makes of a number. -/
def numeral (v : Int) : String := String.ofList (Text.octalChars 4 v)

theorem octalDigit_plain {c : Char} (hc : '0' ≤ c ∧ c ≤ '7') : Text.isBlank c = false ∧ Text.Surrogate.isHeld c = false := by
  have hlow : '0'.toNat ≤ c.toNat := hc.1
  have hhigh : c.toNat ≤ '7'.toNat := hc.2
  have hall : ∀ n ≤ '7'.toNat, '0'.toNat ≤ n →
      Text.isBlank (Char.ofNat n) = false ∧ Text.Surrogate.isHeld (Char.ofNat n) = false := by decide
  rw [← Char.ofNat_toNat c]
  exact hall c.toNat hhigh hlow

theorem numeral_plain (v : Int) :
    ∀ c ∈ (numeral v).toList, Text.isBlank c = false ∧ Text.Surrogate.isHeld c = false := by
  unfold numeral Text.octalChars
  rw [String.toList_ofList]
  by_cases hv : v < 0
  · rw [if_pos hv]
    exact List.forall_mem_cons.mpr ⟨by decide, fun c hc => octalDigit_plain (octalDigits_paddedDigits _ _ c hc)⟩
  · rw [if_neg hv]
    exact fun c hc => octalDigit_plain (octalDigits_paddedDigits _ _ c hc)

theorem bareEnds_numeral (v : Int) : Text.BareEnds Text.isBlank (numeral v).toList :=
  Text.bareEnds_of_forall fun c hc => (numeral_plain v c hc).1

theorem exists_digit_numeral (v : Int) : ∃ c ∈ (numeral v).toList, '0' ≤ c ∧ c ≤ '7' := by
  have hdigit : ∀ width n : Nat, ∃ c ∈ Text.paddedDigits 8 width n, '0' ≤ c ∧ c ≤ '7' := fun width n => by
    obtain ⟨c, hc⟩ := List.exists_mem_of_ne_nil _ (Text.digits_ne_nil 8 n)
    exact ⟨c, List.mem_append_right _ hc, (octalDigits_digits n).2 c hc⟩
  unfold numeral Text.octalChars
  rw [String.toList_ofList]
  by_cases hv : v < 0
  · obtain ⟨c, hc, hoctal⟩ := hdigit (4 - 1) v.natAbs
    rw [if_pos hv]
    exact ⟨c, List.mem_cons_of_mem _ hc, hoctal⟩
  · rw [if_neg hv]
    exact hdigit 4 v.natAbs

theorem isOctal_numeral (v : Int) : isOctal (numeral v).toList = true ↔ 0 ≤ v ∧ v ≤ 0o7777 := by
  unfold numeral Text.octalChars
  rw [String.toList_ofList]
  by_cases hv : v < 0
  · have hminus := not_isOctal_of_mem (List.mem_cons_self (a := '-') (l := Text.paddedDigits 8 (4 - 1) v.natAbs)) (by decide)
    rw [if_pos hv, hminus]
    simp only [Bool.false_eq_true, false_iff]
    omega
  · rw [if_neg hv, isOctal_paddedDigits]
    omega

theorem octalValue_numeral {v : Int} (hv : 0 ≤ v) : octalValue (numeral v).toList = v.toNat := by
  unfold numeral Text.octalChars
  rw [String.toList_ofList, if_neg (by omega), octalValue_paddedDigits]
  omega

/-- The expressions of a mapping of both. -/
theorem ofEntries_both {dir file : Value} {spec : ModeSpec} (hdir : Checked.nonEmptyText (expression dir) = .ok spec.dir)
    (hfile : Checked.nonEmptyText (expression file) = .ok spec.file) :
    ofEntries [(.text "dir", dir), (.text "file", file)] = .ok spec := by
  refine ofEntries_eq_ok.mpr ⟨?_, field_eq_ok.mpr ⟨dir, ?_, hdir⟩, field_eq_ok.mpr ⟨file, ?_, hfile⟩⟩
  · have hkeys : IsKey (.text "dir") ∧ IsKey (.text "file") :=
      ⟨⟨"dir", rfl, by decide, Or.inl rfl⟩, ⟨"file", rfl, by decide, Or.inr rfl⟩⟩
    exact List.forall_mem_cons.mpr ⟨hkeys.1, List.forall_mem_singleton.mpr hkeys.2⟩
  · simp [Value.field?, Value.get?, Value.same_text]
  · simp [Value.field?, Value.get?, Value.same_text]

/-- A number is an expression for both kinds of entries. -/
theorem ofValue_int (v : Int) : ofValue (.int v) = .ok { dir := numeral v, file := numeral v } := by
  have htext : Checked.nonEmptyText (.text (numeral v)) = .ok (numeral v) := by
    have hheld : Text.Surrogate.isIn (numeral v) = false := by
      unfold Text.Surrogate.isIn
      rw [List.any_eq_false]
      exact fun c hc => Bool.eq_false_iff.mp (numeral_plain v c hc).2
    have hempty : (numeral v).isEmpty = false := by
      obtain ⟨c, hc, -⟩ := exists_digit_numeral v
      rw [← Bool.not_eq_true, String.isEmpty_iff]
      rintro h
      rw [h] at hc
      cases hc
    unfold Checked.nonEmptyText Checked.text
    simp only [hheld, hempty, Bool.false_eq_true, ↓reduceIte]
  exact ofEntries_both htext htext

end ModeSpec

namespace Mode

theorem text_eq_numeral (m : Mode) : m.text = ModeSpec.numeral m.toNat := by
  unfold text chars ModeSpec.numeral Text.octalChars
  rw [if_neg (by omega), Int.natAbs_natCast]

theorem ofInt_natCast (n : Nat) : ofInt n = BitVec.ofNat 12 n := BitVec.ofInt_natCast 12 n

theorem toNat_ofInt (v : Int) : ((ofInt v).toNat : Int) = v % 0o10000 := by
  unfold ofInt
  rw [BitVec.toNat_ofInt]
  omega

/-- The digits of a number that is small enough are its mode. -/
theorem compile_numeral {v : Int} (hv : 0 ≤ v ∧ v ≤ 0o7777) (mode : Mode) (isDirectory : Bool) :
    compile (ModeSpec.numeral v) mode isDirectory = .ok (ofInt v) := by
  rw [compile_octal (ModeSpec.bareEnds_numeral v) ((ModeSpec.isOctal_numeral v).mpr hv), ModeSpec.octalValue_numeral hv.1,
    ← ofInt_natCast, Int.toNat_of_nonneg hv.1]

/-- In a config a number is the expression that gives the mode of that number, and that is refused for all entries if
no mode has that number. Asked for at once or shown and read again, a number gives its low twelve bits. -/
theorem compile_ofNumber (v : Int) :
    (∃ expression fault, ModeSpec.ofValue (.int v) = .ok { dir := expression, file := expression } ∧
      ∀ (current : Int) (isDirectory : Bool), compile expression (ofInt current) isDirectory =
        if 0 ≤ v ∧ v ≤ 0o7777 then .ok (ofInt v) else .error { expression, fault }) ∧
    (∀ (current : Int) (isDirectory : Bool), ofValue (.int v) (ofInt current) isDirectory = .ok (ofInt v) ∧
      compile (ofInt v).text (ofInt current) isDirectory = .ok (ofInt v)) ∧
    ((ofInt v).toNat : Int) = v % 0o10000 ∧ (((ofInt v).toNat : Int) = v ↔ 0 ≤ v ∧ v ≤ 0o7777) := by
  have hbits := toNat_ofInt v
  refine ⟨?_, fun current isDirectory => ⟨rfl, ?_⟩, hbits, by omega⟩
  · by_cases hv : 0 ≤ v ∧ v ≤ 0o7777
    · refine ⟨ModeSpec.numeral v, .withoutOperator [], ModeSpec.ofValue_int v, fun current isDirectory => ?_⟩
      rw [if_pos hv, compile_numeral hv]
    · have hoctal := Bool.eq_false_iff.mpr fun h => hv ((ModeSpec.isOctal_numeral v).mp h)
      obtain ⟨c, hmem, hc⟩ := ModeSpec.exists_digit_numeral v
      obtain ⟨fault, hrefused⟩ := exists_refusal_of_digit (ModeSpec.bareEnds_numeral v) hoctal hmem hc
      refine ⟨ModeSpec.numeral v, fault, ModeSpec.ofValue_int v, fun current isDirectory => ?_⟩
      rw [if_neg hv, hrefused]
  · have hlow : (0 : Int) ≤ (ofInt v).toNat ∧ ((ofInt v).toNat : Int) ≤ 0o7777 := by omega
    have hself : ofInt ((ofInt v).toNat : Int) = ofInt v := by
      rw [ofInt_natCast, BitVec.ofNat_toNat, BitVec.setWidth_eq]
    rw [text_eq_numeral, compile_numeral hlow, hself]

/-- A sign is an operator that takes away digits, and five digits are a clause without an operator. -/
example : compile (ModeSpec.numeral (-1)) 0 false = .error { expression := "-001", fault := .unknownPermission '0' } ∧
    compile (ModeSpec.numeral 0o10000) 0 false = .error { expression := "10000", fault := .withoutOperator "10000".toList } := by
  decide +kernel

end Mode

end Curfew
