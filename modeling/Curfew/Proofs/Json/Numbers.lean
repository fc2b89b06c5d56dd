import Curfew.Proofs.Json.Texts

/-! Numbers and words written and read again. A number is read up to what cannot go on a number, and it is none of the
words that stand for values. -/

namespace Curfew
namespace Json

open Text

/-- What follows does not go on a number. -/
def Ends (rest : List Char) : Prop := ∀ c more, rest = c :: more → c.isDigit = false ∧ c ≠ '.' ∧ c ≠ 'e' ∧ c ≠ 'E'

theorem ends_cons {c : Char} (h : c.isDigit = false ∧ c ≠ '.' ∧ c ≠ 'e' ∧ c ≠ 'E') (more : List Char) : Ends (c :: more) := by
  rintro _ _ ⟨⟩
  exact h

/-! ### The parts of a number -/

/-- What follows does not go on digits. -/
def EndsDigits (rest : List Char) : Prop := ∀ c more, rest = c :: more → c.isDigit = false

theorem Ends.endsDigits {rest : List Char} (h : Ends rest) : EndsDigits rest := fun c more heq => (h c more heq).1

theorem endsDigits_cons {c : Char} (h : c.isDigit = false) (more : List Char) : EndsDigits (c :: more) := by
  rintro _ _ ⟨⟩
  exact h

/-- Digits and at least one of them. -/
def IsDigits (ds : List Char) : Prop := ds ≠ [] ∧ ∀ c ∈ ds, c.isDigit = true

/-- The parts are those of a number as it is written: no zero stands in front of other digits, digits stand behind the
point, and behind the letter and the sign of the exponent. -/
structure Numeral.WellFormed (n : Numeral) : Prop where
  sign : n.sign = [] ∨ n.sign = ['-']
  whole : ∃ c ds, n.whole = c :: ds ∧ IsDigits n.whole ∧ (c = '0' → ds = [])
  fraction : n.fraction = [] ∨ ∃ ds, IsDigits ds ∧ n.fraction = '.' :: ds
  exponent : n.exponent = [] ∨ ∃ sign ds, IsDigits ds ∧ (sign = '+' ∨ sign = '-') ∧ n.exponent = 'e' :: sign :: ds

/-- The characters of a number. -/
def Numeral.chars (n : Numeral) : List Char := n.sign ++ n.whole ++ n.fraction ++ n.exponent

section
variable {rest ds : List Char}

theorem takeWhile_digits (hds : ∀ c ∈ ds, c.isDigit = true) (h : EndsDigits rest) :
    (ds ++ rest).takeWhile Char.isDigit = ds := by
  have hrest : rest.takeWhile Char.isDigit = [] := by
    cases rest with
    | nil => rfl
    | cons c rest => rw [List.takeWhile_cons_of_neg (by simp [h c rest rfl])]
  rw [List.takeWhile_append_of_pos hds, hrest, List.append_nil]

theorem wholeDigits_append {c : Char} (hds : ∀ d ∈ c :: ds, d.isDigit = true) (hzero : c = '0' → ds = [])
    (h : EndsDigits rest) : wholeDigits (c :: ds ++ rest) = c :: ds := by
  have htake := takeWhile_digits hds h
  unfold wholeDigits
  split
  · rename_i heq
    obtain rfl := (List.cons.inj heq).1
    rw [hzero rfl]
  · exact htake

theorem fractionAt_of_ends (h : Ends rest) : fractionAt rest = [] := by
  unfold fractionAt
  split
  · exact absurd rfl (h _ _ rfl).2.1
  · rfl

theorem fractionAt_append (hds : IsDigits ds) (h : EndsDigits rest) : fractionAt ('.' :: ds ++ rest) = '.' :: ds := by
  have hfilled : ds.isEmpty = false := by simpa using hds.1
  rw [List.cons_append, fractionAt, takeWhile_digits hds.2 h]
  simp only [hfilled, Bool.false_eq_true, ↓reduceIte]

theorem exponentAt_of_ends (h : Ends rest) : exponentAt rest = [] := by
  unfold exponentAt
  split
  · rw [if_neg]
    rintro (hc | hc)
    · exact (h _ _ rfl).2.2.1 hc
    · exact (h _ _ rfl).2.2.2 hc
  · rfl

theorem exponentAt_append {sign : Char} (hsign : sign = '+' ∨ sign = '-') (hds : IsDigits ds) (h : EndsDigits rest) :
    exponentAt ('e' :: sign :: ds ++ rest) = 'e' :: sign :: ds := by
  have hfilled : ds.isEmpty = false := by simpa using hds.1
  have hone : ((sign :: (ds ++ rest)).take 1).filter (fun c => c = '+' ∨ c = '-') = [sign] := by
    rw [List.take_succ_cons, List.take_zero, List.filter_cons_of_pos (by simpa using hsign), List.filter_nil]
  rw [List.cons_append, List.cons_append, exponentAt, if_pos (Or.inl rfl)]
  simp only [hone, List.length_singleton, List.drop_succ_cons, List.drop_zero, takeWhile_digits hds.2 h, hfilled,
    Bool.false_eq_true, ↓reduceIte, List.cons_append, List.nil_append]

/-! ### Whole numbers and others -/

namespace Numeral
variable {n : Numeral}

/-- What stands behind the whole digits does not go on them. -/
theorem WellFormed.endsDigits_fraction (hn : n.WellFormed) (h : Ends rest) :
    EndsDigits (n.fraction ++ (n.exponent ++ rest)) := by
  rcases hn.fraction with hfraction | ⟨ds, -, hfraction⟩
  · rcases hn.exponent with hexponent | ⟨sign, ds, -, -, hexponent⟩
    · rw [hfraction, hexponent]
      exact h.endsDigits
    · rw [hfraction, hexponent]
      exact endsDigits_cons (by decide) _
  · rw [hfraction]
    exact endsDigits_cons (by decide) _

theorem WellFormed.fractionAt_eq (hn : n.WellFormed) (h : Ends rest) :
    fractionAt (n.fraction ++ (n.exponent ++ rest)) = n.fraction := by
  rcases hn.exponent with hexponent | ⟨sign, more, -, -, hexponent⟩ <;>
    rcases hn.fraction with hfraction | ⟨ds, hds, hfraction⟩ <;> rw [hfraction, hexponent]
  · exact fractionAt_of_ends h
  · exact fractionAt_append hds h.endsDigits
  · rfl
  · exact fractionAt_append hds (endsDigits_cons (by decide) _)

theorem WellFormed.exponentAt_eq (hn : n.WellFormed) (h : Ends rest) : exponentAt (n.exponent ++ rest) = n.exponent := by
  rcases hn.exponent with hexponent | ⟨sign, ds, hds, hsign, hexponent⟩ <;> rw [hexponent]
  · exact exponentAt_of_ends h
  · exact exponentAt_append hsign hds h.endsDigits

/-- What a number begins with: a digit, maybe behind a minus sign. -/
theorem WellFormed.head (hn : n.WellFormed) : ∃ c more, c.isDigit = true ∧ (n.chars = c :: more ∨ n.chars = '-' :: c :: more) := by
  obtain ⟨c, ds, hwhole, hds, -⟩ := hn.whole
  refine ⟨c, ds ++ n.fraction ++ n.exponent, hds.2 c (by rw [hwhole]; exact List.mem_cons_self), ?_⟩
  unfold chars
  rcases hn.sign with hsign | hsign <;> rw [hsign, hwhole]
  · exact Or.inl rfl
  · exact Or.inr rfl

/-- The parts of a number are read from its characters. -/
theorem WellFormed.numeral?_eq (hn : n.WellFormed) (h : Ends rest) : numeral? (n.chars ++ rest) = some (n, rest) := by
  obtain ⟨c, ds, hwhole, hds, hzero⟩ := hn.whole
  have hdigit : c.isDigit = true := hds.2 c (by rw [hwhole]; exact List.mem_cons_self)
  have hminus : c ≠ '-' := by
    rintro rfl
    exact absurd hdigit (by decide)
  have hread : wholeDigits (n.whole ++ (n.fraction ++ (n.exponent ++ rest))) = n.whole := by
    have hall := hds.2
    rw [hwhole] at hall ⊢
    exact wholeDigits_append hall hzero (hn.endsDigits_fraction h)
  have hfilled : n.whole.isEmpty = false := by simp [hwhole]
  have hsign : ((n.chars ++ rest).take 1).filter (· = '-') = n.sign := by
    unfold chars
    rcases hn.sign with hsign | hsign <;> rw [hsign, hwhole]
    · simp [hminus]
    · simp
  have hchars : n.chars ++ rest = n.sign ++ (n.whole ++ (n.fraction ++ (n.exponent ++ rest))) := by
    simp only [chars, List.append_assoc]
  unfold numeral?
  rw [hsign, hchars]
  simp only [List.drop_left, hread, hfilled, hn.fractionAt_eq h, hn.exponentAt_eq h, Bool.false_eq_true, ↓reduceIte]

end Numeral

theorem isDigits_digits (n : Nat) : IsDigits (digits 10 n) := by
  obtain ⟨c, more, hdigits, -⟩ := digits_head n
  exact ⟨by rw [hdigits]; exact List.cons_ne_nil _ _, fun d hd => (isDigit_of_mem_digits n d hd).1⟩

/-- The parts of a whole number. -/
theorem exists_numeral_decimalChars (i : Int) : ∃ sign, sign ++ digits 10 i.natAbs = decimalChars i ∧
    Numeral.WellFormed { sign, whole := digits 10 i.natAbs, fraction := [], exponent := [] } := by
  have hwhole : ∃ c ds, digits 10 i.natAbs = c :: ds ∧ IsDigits (digits 10 i.natAbs) ∧ (c = '0' → ds = []) := by
    obtain ⟨c, ds, hdigits, hpos⟩ := digits_head i.natAbs
    refine ⟨c, ds, hdigits, isDigits_digits _, fun hc => ?_⟩
    have hzero : i.natAbs = 0 := Nat.eq_zero_of_not_pos fun h => hpos h hc
    rw [hzero, digits_of_lt (by decide)] at hdigits
    exact (List.cons.inj hdigits).2.symm
  unfold decimalChars
  by_cases hi : i < 0
  · exact ⟨['-'], by simp [hi], ⟨Or.inr rfl, hwhole, Or.inl rfl, Or.inl rfl⟩⟩
  · exact ⟨[], by simp [hi], ⟨Or.inl rfl, hwhole, Or.inl rfl, Or.inl rfl⟩⟩

theorem after?_eq_none {word cs : List Char} (h : ∀ more, cs ≠ word ++ more) : after? word cs = none := by
  unfold after?
  rw [if_neg]
  intro htake
  have hsplit := List.take_append_drop word.length cs
  rw [htake] at hsplit
  exact h (cs.drop word.length) hsplit.symm

theorem words_head {word : String × Value} (h : word ∈ words) :
    ∃ c d more, word.1.toList = c :: d :: more ∧ c.isDigit = false ∧ d.isDigit = false := by
  simp only [words, List.mem_cons, List.not_mem_nil, or_false] at h
  rcases h with rfl | rfl | rfl | rfl | rfl | rfl <;> exact ⟨_, _, _, rfl, rfl, rfl⟩

/-- A number is none of the words. -/
theorem Numeral.WellFormed.word?_eq {n : Numeral} (hn : n.WellFormed) (rest : List Char) : word? (n.chars ++ rest) = none := by
  obtain ⟨digit, more, hdigit, hhead⟩ := hn.head
  unfold word?
  rw [List.findSome?_eq_none_iff]
  intro word hword
  rw [Option.map_eq_none_iff]
  refine after?_eq_none fun after heq => ?_
  obtain ⟨c, d, further, hchars, hc, hd⟩ := words_head hword
  rw [hchars] at heq
  rcases hhead with hhead | hhead <;> rw [hhead] at heq
  · obtain rfl : digit = c := (List.cons.inj heq).1
    exact absurd hdigit (by simp [hc])
  · obtain rfl : digit = d := (List.cons.inj (List.cons.inj heq).2).1
    exact absurd hdigit (by simp [hd])

theorem Numeral.WellFormed.simple_eq {n : Numeral} (hn : n.WellFormed) (h : Ends rest) :
    simple (n.chars ++ rest) = n.value.map (·, rest) := by
  unfold simple
  rw [hn.word?_eq, hn.numeral?_eq h]

theorem simple_decimalChars (h : Ends rest) (i : Int) : simple (decimalChars i ++ rest) = .ok (.int i, rest) := by
  obtain ⟨sign, hsign, hn⟩ := exists_numeral_decimalChars i
  have hsimple := hn.simple_eq h
  simp only [Numeral.chars, List.append_nil, hsign] at hsimple
  rw [hsimple]
  simp [Numeral.value, hsign, integer?_decimalChars, Except.map]

theorem decimalChars_head (i : Int) : ∃ c more, c.isDigit = true ∧
    (decimalChars i = c :: more ∨ decimalChars i = '-' :: c :: more) := by
  obtain ⟨sign, hsign, hn⟩ := exists_numeral_decimalChars i
  have hhead := hn.head
  simpa only [Numeral.chars, List.append_nil, hsign] using hhead

theorem after?_ne {word cs : List Char} {c d : Char} {more further : List Char} (hword : word = c :: more)
    (hcs : cs = d :: further) (hne : d ≠ c) : after? word cs = none := by
  refine after?_eq_none fun after heq => hne ?_
  rw [hword, hcs] at heq
  exact (List.cons.inj heq).1

/-- A word is read as its value: no two of the words begin alike. -/
theorem simple_word {word : String × Value} (h : word ∈ words) (rest : List Char) :
    simple (word.1.toList ++ rest) = .ok (word.2, rest) := by
  have hheads : (words.map fun word => word.1.toList.head?).Nodup := by decide
  obtain ⟨before, behind, hwords⟩ := List.append_of_mem h
  have hword : word? (word.1.toList ++ rest) = some (word.2, rest) := by
    unfold word?
    rw [List.findSome?_eq_some_iff]
    refine ⟨before, word, behind, hwords, by rw [after?_self]; rfl, fun other hother => ?_⟩
    rw [hwords, List.map_append, List.nodup_append] at hheads
    have hne : other.1.toList.head? ≠ word.1.toList.head? :=
      hheads.2.2 _ (List.mem_map_of_mem hother) _ List.mem_cons_self
    obtain ⟨c, _, _, hc, -⟩ := words_head h
    obtain ⟨d, _, _, hd, -⟩ := words_head (by rw [hwords]; exact List.mem_append_left _ hother)
    rw [hc, hd] at hne
    rw [after?_ne hd (by rw [hc]; rfl) (by simpa using Ne.symm hne), Option.map_none]
  unfold simple
  rw [hword]

end

end Json

end Curfew
