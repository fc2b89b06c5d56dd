import Curfew.Proofs.Json.RoundTrip

/-! Lines that go on where another one broke off. An object whose first key begins with a letter cannot end a value that
was begun in front of it, nor a text or a number: what stands behind the broken line makes one malformed line with it. -/

namespace Curfew
namespace Json

open Text

/-! ### What a single reading takes -/

/-- Something was read of a text, and no opening brace was in it. -/
def Takes (cs rest : List Char) : Prop := ∃ used, used ≠ [] ∧ cs = used ++ rest ∧ '\x7b' ∉ used

/-- What is left goes on to the end of a text, with less in front of it. -/
def Leaves (front rest : List Char) (ending : List Char) : Prop := ∃ left, left.length < front.length ∧ rest = left ++ ending

section
variable {cs rest front more : List Char} {c : Char}

theorem Takes.cons (hc : c ≠ '\x7b') (h : cs = rest ∨ Takes cs rest) : Takes (c :: cs) rest := by
  rcases h with rfl | ⟨used, -, rfl, hused⟩
  · exact ⟨[c], List.cons_ne_nil _ _, rfl, by simpa using Ne.symm hc⟩
  · exact ⟨c :: used, List.cons_ne_nil _ _, rfl, by simp [Ne.symm hc, hused]⟩

/-- What is read without an opening brace ends in front of the first one of the ending. -/
theorem Takes.leaves (h : Takes (front ++ '\x7b' :: more) rest) : Leaves front rest ('\x7b' :: more) := by
  obtain ⟨used, hne, heq, hused⟩ := h
  -- What was read ends in front of the brace, or the brace is in it.
  rcases List.append_eq_append_iff.mp heq with ⟨behind, rfl, hbehind⟩ | ⟨left, rfl, hrest⟩
  · cases behind with
    | nil => exact ⟨[], by simpa [List.length_pos_iff] using hne, hbehind.symm⟩
    | cons c behind =>
      obtain rfl := (List.cons.inj hbehind).1
      exact absurd (List.mem_append_right _ List.mem_cons_self) hused
  · refine ⟨left, ?_, hrest⟩
    rw [List.length_append]
    have hpos := List.length_pos_iff.mpr hne
    omega

theorem length_skipSpace (cs : List Char) : (skipSpace cs).length ≤ cs.length := (List.dropWhile_suffix _).length_le

/-! ### Numbers and words -/

theorem wholeDigits_front (cs : List Char) : wholeDigits cs <+: cs ∧ ∀ c ∈ wholeDigits cs, c.isDigit = true := by
  unfold wholeDigits
  split
  · exact ⟨List.cons_prefix_cons.mpr ⟨rfl, List.nil_prefix⟩, by simp⟩
  · exact ⟨List.takeWhile_prefix _, fun c hc => List.mem_takeWhile_imp hc⟩

theorem fractionAt_front (cs : List Char) : fractionAt cs <+: cs ∧ '\x7b' ∉ fractionAt cs := by
  unfold fractionAt
  split
  · dsimp only
    split
    · exact ⟨List.nil_prefix, List.not_mem_nil⟩
    · refine ⟨List.cons_prefix_cons.mpr ⟨rfl, List.takeWhile_prefix _⟩, fun hmem => ?_⟩
      rcases List.mem_cons.mp hmem with hmem | hmem
      · exact absurd hmem (by decide)
      · exact absurd (List.mem_takeWhile_imp hmem) (by decide)
  · exact ⟨List.nil_prefix, List.not_mem_nil⟩

/-- A first character of some kind, if there is one. -/
theorem filter_take_front (p : Char → Bool) (cs : List Char) : (cs.take 1).filter p <+: cs ∧ ∀ c ∈ (cs.take 1).filter p, p c := by
  refine ⟨?_, fun c hc => (List.mem_filter.mp hc).2⟩
  cases cs with
  | nil => exact List.nil_prefix
  | cons c cs =>
    by_cases hc : p c = true
    · simp [hc]
    · simp [hc]

theorem exponentAt_front (cs : List Char) : exponentAt cs <+: cs ∧ '\x7b' ∉ exponentAt cs := by
  unfold exponentAt
  split
  · rename_i letter rest
    split
    · rename_i hletter
      dsimp only
      split
      · exact ⟨List.nil_prefix, List.not_mem_nil⟩
      · obtain ⟨hfront, hsign⟩ := filter_take_front (fun c => decide (c = '+' ∨ c = '-')) rest
        generalize hs : (rest.take 1).filter (fun c => decide (c = '+' ∨ c = '-')) = sign at hfront hsign
        obtain ⟨behind, hrest⟩ := hfront
        have hdrop : rest.drop sign.length = behind := by rw [← hrest, List.drop_left]
        rw [hdrop]
        refine ⟨?_, fun hmem => ?_⟩
        · rw [List.cons_append, List.cons_prefix_cons, ← hrest]
          exact ⟨rfl, List.prefix_append_right_inj _ |>.mpr (List.takeWhile_prefix _)⟩
        · rcases List.mem_append.mp hmem with hmem | hmem
          · rcases List.mem_cons.mp hmem with rfl | hmem
            · exact absurd hletter (by decide)
            · exact absurd (hsign _ hmem) (by decide)
          · exact absurd (List.mem_takeWhile_imp hmem) (by decide)
    · exact ⟨List.nil_prefix, List.not_mem_nil⟩
  · exact ⟨List.nil_prefix, List.not_mem_nil⟩

theorem numeral?_takes {n : Numeral} (h : numeral? cs = some (n, rest)) : Takes cs rest := by
  have part : ∀ {part cs : List Char}, part <+: cs → part ++ cs.drop part.length = cs := by
    rintro part _ ⟨behind, rfl⟩
    rw [List.drop_left]
  unfold numeral? at h
  dsimp only at h
  obtain ⟨hsign, hminus⟩ := filter_take_front (fun c => decide (c = '-')) cs
  generalize (cs.take 1).filter (fun c => decide (c = '-')) = sign at h hsign hminus
  split at h
  · cases h
  · rename_i hfilled
    obtain ⟨hwhole, hdigits⟩ := wholeDigits_front (cs.drop sign.length)
    obtain ⟨hfraction, hfree⟩ := fractionAt_front ((cs.drop sign.length).drop (wholeDigits (cs.drop sign.length)).length)
    generalize wholeDigits (cs.drop sign.length) = whole at *
    generalize fractionAt ((cs.drop sign.length).drop whole.length) = fraction at *
    obtain ⟨hexponent, hfree'⟩ := exponentAt_front (((cs.drop sign.length).drop whole.length).drop fraction.length)
    generalize exponentAt (((cs.drop sign.length).drop whole.length).drop fraction.length) = exponent at *
    obtain ⟨-, rfl⟩ := Prod.mk.inj (Option.some.inj h)
    refine ⟨sign ++ (whole ++ (fraction ++ exponent)), ?_, ?_, ?_⟩
    · intro hnil
      simp only [List.append_eq_nil_iff] at hnil
      exact hfilled (by simp [hnil.2.1])
    · rw [List.append_assoc, List.append_assoc, List.append_assoc, part hexponent, part hfraction, part hwhole, part hsign]
    · simp only [List.mem_append, not_or]
      exact ⟨fun hmem => absurd (hminus _ hmem) (by decide), fun hmem => absurd (hdigits _ hmem) (by decide), hfree, hfree'⟩

theorem after?_eq_some {word : List Char} (h : after? word cs = some rest) : cs = word ++ rest := by
  unfold after? at h
  split at h
  · rename_i htake
    have hsplit := List.take_append_drop word.length cs
    rw [htake, Option.some.inj h] at hsplit
    exact hsplit.symm
  · cases h

theorem word?_takes {v : Value} (h : word? cs = some (v, rest)) : Takes cs rest := by
  have hwords : ∀ word ∈ words, word.1.toList ≠ [] ∧ '\x7b' ∉ word.1.toList := by
    simp only [words, List.forall_mem_cons]
    decide
  obtain ⟨word, hword, hread⟩ := List.exists_of_findSome?_eq_some h
  obtain ⟨after, hafter, heq⟩ := Option.map_eq_some_iff.mp hread
  obtain ⟨-, rfl⟩ := Prod.mk.inj heq
  exact ⟨word.1.toList, (hwords word hword).1, after?_eq_some hafter, (hwords word hword).2⟩

theorem simple_takes {v : Value} (h : simple cs = .ok (v, rest)) : Takes cs rest := by
  unfold simple at h
  split at h
  · rename_i result hword
    obtain rfl := Except.ok.inj h
    exact word?_takes hword
  · split at h
    · rename_i n after hnumeral
      cases hn : n.value with
      | error fault =>
        rw [hn] at h
        cases h
      | ok v =>
        rw [hn] at h
        obtain ⟨-, rfl⟩ := Prod.mk.inj (Except.ok.inj h)
        exact numeral?_takes hnumeral
    · cases h

/-! ### Characters and texts -/

theorem mapM_eq_some {α β : Type} {f : α → Option β} {as : List α} : ∀ {bs : List β}, as.mapM f = some bs →
    bs.length = as.length ∧ ∀ a ∈ as, ∃ b, f a = some b := by
  induction as with
  | nil =>
    rintro bs ⟨⟩
    exact ⟨rfl, by simp⟩
  | cons a as ih =>
    intro bs h
    rw [List.mapM_cons] at h
    obtain ⟨b, hb, h⟩ := Option.bind_eq_some_iff.mp h
    obtain ⟨more, hmore, h⟩ := Option.bind_eq_some_iff.mp h
    obtain rfl := Option.some.inj h
    obtain ⟨hlength, hall⟩ := ih hmore
    exact ⟨by simp [hlength], List.forall_mem_cons.mpr ⟨⟨b, hb⟩, hall⟩⟩

theorem unit?_takes {unit : Nat} (h : unit? cs = some (unit, rest)) : Takes cs rest := by
  unfold unit? at h
  obtain ⟨digits, hdigits, h⟩ := Option.bind_eq_some_iff.mp h
  split at h
  · rename_i hfour
    obtain ⟨hlength, hall⟩ := mapM_eq_some hdigits
    obtain ⟨-, rfl⟩ := Prod.mk.inj (Option.some.inj h)
    refine ⟨cs.take 4, fun hnil => ?_, (List.take_append_drop 4 cs).symm, fun hbrace => ?_⟩
    · rw [hnil] at hlength
      exact absurd (hfour.symm.trans hlength) (by decide)
    · obtain ⟨d, hd⟩ := hall _ hbrace
      have hnone : (if '\x7b'.toNat < 0x80 then digit? 16 '\x7b' else none) = none := by decide
      cases hd.symm.trans hnone
  · cases h

theorem unitChar_takes {unit : Nat} (h : unitChar unit cs = (c, rest)) : cs = rest ∨ Takes cs rest := by
  unfold unitChar at h
  dsimp only at h
  split at h
  · rename_i low after hlow
    obtain ⟨-, rfl⟩ := Prod.mk.inj h
    obtain ⟨hsecond, -⟩ := Option.filter_eq_some_iff.mp hlow
    split at hsecond
    · obtain ⟨behind, hbehind, hunit⟩ := Option.bind_eq_some_iff.mp hsecond
      obtain ⟨used, -, rfl, hused⟩ := unit?_takes hunit
      refine Or.inr ⟨['\\', 'u'] ++ used, by simp, ?_, by simpa using hused⟩
      rw [after?_eq_some hbehind, List.append_assoc]
    · cases hsecond
  · exact Or.inl (Prod.mk.inj h).2

theorem escaped_takes (h : escaped cs = .ok (c, rest)) : Takes cs rest := by
  unfold escaped at h
  split at h
  · split at h
    · rename_i unit behind hunit
      obtain ⟨used, hne, rfl, hused⟩ := unit?_takes hunit
      rcases unitChar_takes (Except.ok.inj h) with rfl | ⟨second, -, rfl, hsecond⟩
      · exact Takes.cons (by decide) (Or.inr ⟨used, hne, rfl, hused⟩)
      · refine Takes.cons (by decide) (Or.inr ⟨used ++ second, by simp [hne], by rw [List.append_assoc], ?_⟩)
        simp [hused, hsecond]
    · cases h
  · rename_i letter behind _
    split at h
    · rename_i d hnamed
      obtain ⟨-, rfl⟩ := Prod.mk.inj (Except.ok.inj h)
      refine Takes.cons ?_ (Or.inl rfl)
      rintro rfl
      cases hnamed
    · cases h
  · cases h

end

/-! ### Steps of the reader -/

section
variable {fuel : Nat} {v : Value} {vs : List Value} {ps : List (Value × Value)} {cs read rest : List Char}

theorem text_inv (h : text (fuel + 1) cs = .ok (read, rest)) : ∃ c more, cs = c :: more ∧
    ((c = '"' ∧ more = rest) ∨ (∃ d behind left, c = '\\' ∧ escaped more = .ok (d, behind) ∧ text fuel behind = .ok (left, rest)) ∨
      ∃ left, c ≠ '"' ∧ c ≠ '\\' ∧ text fuel more = .ok (left, rest)) := by
  cases cs with
  | nil => cases h
  | cons c more =>
    refine ⟨c, more, rfl, ?_⟩
    rw [text] at h
    split at h
    · rename_i hquote
      exact Or.inl ⟨hquote, (Prod.mk.inj (Except.ok.inj h)).2⟩
    · rename_i hquote
      split at h
      · rename_i hslash
        obtain ⟨⟨d, behind⟩, hescaped, h⟩ := bind_eq_ok.mp h
        obtain ⟨⟨left, last⟩, htext, h⟩ := bind_eq_ok.mp h
        obtain ⟨-, rfl⟩ := Prod.mk.inj (Except.ok.inj h)
        exact Or.inr (Or.inl ⟨d, behind, left, hslash, hescaped, htext⟩)
      · rename_i hslash
        split at h
        · cases h
        · obtain ⟨⟨left, last⟩, htext, h⟩ := bind_eq_ok.mp h
          obtain ⟨-, rfl⟩ := Prod.mk.inj (Except.ok.inj h)
          exact Or.inr (Or.inr ⟨left, hquote, hslash, htext⟩)

theorem value_inv (h : value (fuel + 1) cs = .ok (v, rest)) :
    (∃ more read, cs = '"' :: more ∧ text fuel more = .ok (read, rest)) ∨
    (∃ more, cs = '[' :: more ∧ (skipSpace more = ']' :: rest ∨ ∃ vs, items fuel (skipSpace more) = .ok (vs, rest))) ∨
    (∃ more, cs = '\x7b' :: more ∧ (skipSpace more = '\x7d' :: rest ∨ ∃ ps, pairs fuel (skipSpace more) = .ok (ps, rest))) ∨
    simple cs = .ok (v, rest) := by
  rw [value.eq_def] at h
  dsimp only at h
  split at h
  · obtain ⟨⟨read, last⟩, htext, h⟩ := bind_eq_ok.mp h
    obtain ⟨-, rfl⟩ := Prod.mk.inj (Except.ok.inj h)
    exact Or.inl ⟨_, read, rfl, htext⟩
  · refine Or.inr (Or.inl ⟨_, rfl, ?_⟩)
    split at h
    · rename_i hskip
      obtain ⟨-, rfl⟩ := Prod.mk.inj (Except.ok.inj h)
      exact Or.inl hskip
    · obtain ⟨⟨vs, last⟩, hitems, h⟩ := bind_eq_ok.mp h
      obtain ⟨-, rfl⟩ := Prod.mk.inj (Except.ok.inj h)
      exact Or.inr ⟨vs, hitems⟩
  · refine Or.inr (Or.inr (Or.inl ⟨_, rfl, ?_⟩))
    split at h
    · rename_i hskip
      obtain ⟨-, rfl⟩ := Prod.mk.inj (Except.ok.inj h)
      exact Or.inl hskip
    · obtain ⟨⟨ps, last⟩, hpairs, h⟩ := bind_eq_ok.mp h
      obtain ⟨-, rfl⟩ := Prod.mk.inj (Except.ok.inj h)
      exact Or.inr ⟨ps, hpairs⟩
  · exact Or.inr (Or.inr (Or.inr h))

/-- Behind a value of an array comes its end or a comma. -/
theorem items_inv (h : items (fuel + 1) cs = .ok (vs, rest)) : ∃ item behind, value fuel cs = .ok (item, behind) ∧
    (skipSpace behind = ']' :: rest ∨
      ∃ more vs, skipSpace behind = ',' :: more ∧ items fuel (skipSpace more) = .ok (vs, rest)) := by
  rw [items] at h
  obtain ⟨⟨item, behind⟩, hvalue, h⟩ := bind_eq_ok.mp h
  refine ⟨item, behind, hvalue, ?_⟩
  dsimp only at h
  split at h
  · rename_i hskip
    obtain ⟨-, rfl⟩ := Prod.mk.inj (Except.ok.inj h)
    exact Or.inl hskip
  · rename_i more hskip
    obtain ⟨⟨vs, last⟩, hitems, h⟩ := bind_eq_ok.mp h
    obtain ⟨-, rfl⟩ := Prod.mk.inj (Except.ok.inj h)
    exact Or.inr ⟨more, vs, hskip, hitems⟩
  · cases h

/-- A pair of an object has its name in quotes and a colon, and behind its value comes the end or a comma. -/
theorem pairs_inv (h : pairs (fuel + 1) cs = .ok (ps, rest)) : ∃ more key behind inner item after,
    cs = '"' :: more ∧ text fuel more = .ok (key, behind) ∧ skipSpace behind = ':' :: inner ∧
      value fuel (skipSpace inner) = .ok (item, after) ∧
      (skipSpace after = '\x7d' :: rest ∨
        ∃ more ps, skipSpace after = ',' :: more ∧ pairs fuel (skipSpace more) = .ok (ps, rest)) := by
  rw [pairs.eq_def] at h
  dsimp only at h
  split at h
  · rename_i more
    obtain ⟨⟨key, behind⟩, htext, h⟩ := bind_eq_ok.mp h
    dsimp only at h
    split at h
    · rename_i inner hcolon
      obtain ⟨⟨item, after⟩, hvalue, h⟩ := bind_eq_ok.mp h
      refine ⟨more, key, behind, inner, item, after, rfl, htext, hcolon, hvalue, ?_⟩
      dsimp only at h
      split at h
      · rename_i hskip
        obtain ⟨-, rfl⟩ := Prod.mk.inj (Except.ok.inj h)
        exact Or.inl hskip
      · rename_i next hskip
        obtain ⟨⟨ps, last⟩, hpairs, h⟩ := bind_eq_ok.mp h
        obtain ⟨-, rfl⟩ := Prod.mk.inj (Except.ok.inj h)
        exact Or.inr ⟨next, ps, hskip, hpairs⟩
      · cases h
    · cases h
  · cases h

end

/-! ### Lines behind broken ones -/

/-- The line of an object: it is read up to its end, and the name of its first key begins with a letter that can stand
behind no value and no text. -/
structure ObjectLine (line : List Char) : Prop where
  head : ∃ more, line = '\x7b' :: '"' :: 't' :: more
  value : ∀ fuel, line.length ≤ fuel → ∃ v, Json.value fuel line = .ok (v, ['\n'])

section
variable {line front rest read : List Char} {fuel : Nat} {v : Value} {vs : List Value} {ps : List (Value × Value)}

theorem ObjectLine.skipSpace_eq (hl : ObjectLine line) : skipSpace line = line := by
  obtain ⟨more, rfl⟩ := hl.head
  exact skipSpace_cons (by decide) _

theorem ObjectLine.leaves_of_takes (hl : ObjectLine line) (h : Takes (front ++ line) rest) : Leaves front rest line := by
  obtain ⟨more, rfl⟩ := hl.head
  exact h.leaves

theorem Leaves.mono {longer : List Char} (h : Leaves front rest line) (hle : front.length ≤ longer.length) :
    Leaves longer rest line := by
  obtain ⟨left, hleft, hrest⟩ := h
  exact ⟨left, Nat.lt_of_lt_of_le hleft hle, hrest⟩

/-- A character that is found behind spaces stands in front of the line. -/
theorem Leaves.skip (hl : ObjectLine line) (h : Leaves front rest line) {c : Char} {more : List Char}
    (hskip : skipSpace rest = c :: more) (hc : c ≠ '\x7b') : Leaves front more line := by
  obtain ⟨left, hleft, rfl⟩ := h
  have hlength := length_skipSpace left
  rw [skipSpace_append hl.skipSpace_eq] at hskip
  cases hbehind : skipSpace left with
  | nil =>
    obtain ⟨inner, hline⟩ := hl.head
    rw [hbehind, hline] at hskip
    exact absurd (List.cons.inj hskip).1.symm hc
  | cons d behind =>
    rw [hbehind, List.cons_append] at hskip
    rw [hbehind, List.length_cons] at hlength
    exact ⟨behind, by omega, (List.cons.inj hskip).2.symm⟩

/-- A text that was begun in front of the line ends there, or in front of the first name in it. -/
theorem text_torn (hl : ObjectLine line) : ∀ {fuel : Nat} {front read : List Char}, text fuel (front ++ line) = .ok (read, rest) →
    Leaves front rest line ∨ ∃ more, rest = 't' :: more := by
  intro fuel
  induction fuel with
  | zero =>
    intro front read h
    cases h
  | succ fuel ih =>
    intro front read h
    obtain ⟨c, more, heq, hcases⟩ := text_inv h
    cases front with
    | nil =>
      -- The quote in front of the first name ends the text.
      obtain ⟨inner, rfl⟩ := hl.head
      obtain ⟨rfl, rfl⟩ := List.cons.inj heq
      rcases hcases with ⟨hquote, -⟩ | ⟨-, -, -, hslash, -, -⟩ | ⟨left, -, -, hread⟩
      · exact absurd hquote (by decide)
      · exact absurd hslash (by decide)
      · cases fuel with
        | zero => cases hread
        | succ fuel =>
          obtain ⟨d, after, hquoted, hcases⟩ := text_inv hread
          obtain ⟨rfl, rfl⟩ := List.cons.inj hquoted
          rcases hcases with ⟨-, hrest⟩ | ⟨-, -, -, hslash, -, -⟩ | ⟨-, hquote, -, -⟩
          · exact Or.inr ⟨inner, hrest.symm⟩
          · exact absurd hslash (by decide)
          · exact absurd rfl hquote
    | cons d front =>
      obtain ⟨-, rfl⟩ := List.cons.inj heq
      rcases hcases with ⟨-, rfl⟩ | ⟨e, behind, left, -, hescaped, hread⟩ | ⟨left, -, -, hread⟩
      · exact Or.inl ⟨front, by simp, rfl⟩
      · obtain ⟨behind, hbehind, rfl⟩ := hl.leaves_of_takes (escaped_takes hescaped)
        exact (ih hread).imp_left fun h => h.mono (by rw [List.length_cons]; omega)
      · exact (ih hread).imp_left fun h => h.mono (by rw [List.length_cons]; omega)

/-- With so much fuel, no value that was begun in front of the line goes on into it. -/
structure Torn (line : List Char) (fuel : Nat) : Prop where
  value : ∀ {front v rest}, front ≠ [] → 2 * front.length + line.length ≤ fuel →
    Json.value fuel (front ++ line) = .ok (v, rest) → Leaves front rest line ∨ ∃ more, rest = 't' :: more
  items : ∀ {front vs rest}, 2 * front.length + line.length < fuel →
    Json.items fuel (front ++ line) = .ok (vs, rest) → Leaves front rest line
  pairs : ∀ {front ps rest}, 2 * front.length + line.length < fuel →
    Json.pairs fuel (front ++ line) = .ok (ps, rest) → Leaves front rest line

namespace Torn

/-- A value behind which something of a list or a mapping follows was read in front of the line. -/
theorem leaves_of_value (ht : Torn line fuel) (hl : ObjectLine line) (hfuel : 2 * front.length + line.length ≤ fuel)
    (h : Json.value fuel (front ++ line) = .ok (v, rest)) {c : Char} {more : List Char} (hskip : skipSpace rest = c :: more)
    (hc : c ≠ '\x7b' ∧ c ≠ 't') : Leaves front more line := by
  by_cases hfront : front = []
  · -- The value is that of the line, and only the line end is left.
    subst hfront
    obtain ⟨w, hw⟩ := hl.value fuel (by omega)
    rw [List.nil_append, hw] at h
    obtain ⟨-, rfl⟩ := Prod.mk.inj (Except.ok.inj h)
    cases hskip
  · rcases ht.value hfront hfuel h with hleaves | ⟨inner, rfl⟩
    · exact hleaves.skip hl hskip hc.1
    · rw [skipSpace_cons (by decide)] at hskip
      exact absurd (List.cons.inj hskip).1.symm hc.2

theorem items_succ (ht : Torn line fuel) (hl : ObjectLine line) (hfuel : 2 * front.length + line.length < fuel + 1)
    (h : Json.items (fuel + 1) (front ++ line) = .ok (vs, rest)) : Leaves front rest line := by
  obtain ⟨item, behind, hvalue, hclose | ⟨more, ws, hcomma, hitems⟩⟩ := items_inv h
  · exact ht.leaves_of_value hl (by omega) hvalue hclose (by decide)
  · obtain ⟨left, hleft, rfl⟩ := ht.leaves_of_value hl (by omega) hvalue hcomma (by decide)
    have hlength := length_skipSpace left
    rw [skipSpace_append hl.skipSpace_eq] at hitems
    exact (ht.items (by omega) hitems).mono (by omega)

theorem pairs_succ (ht : Torn line fuel) (hl : ObjectLine line) (hfuel : 2 * front.length + line.length < fuel + 1)
    (h : Json.pairs (fuel + 1) (front ++ line) = .ok (ps, rest)) : Leaves front rest line := by
  obtain ⟨more, key, behind, inner, item, after, heq, hkey, hcolon, hvalue, hend⟩ := pairs_inv h
  cases front with
  | nil =>
    obtain ⟨_, hline⟩ := hl.head
    rw [List.nil_append, hline] at heq
    exact absurd (List.cons.inj heq).1 (by decide)
  | cons c front =>
    obtain ⟨-, rfl⟩ := List.cons.inj heq
    rw [List.length_cons] at hfuel
    have hinner : Leaves front inner line := by
      rcases text_torn hl hkey with hleaves | ⟨_, rfl⟩
      · exact hleaves.skip hl hcolon (by decide)
      · cases hcolon
    obtain ⟨left, hleft, rfl⟩ := hinner
    have hlength := length_skipSpace left
    rw [skipSpace_append hl.skipSpace_eq] at hvalue
    rcases hend with hclose | ⟨more, qs, hcomma, hpairs⟩
    · exact (ht.leaves_of_value hl (by omega) hvalue hclose (by decide)).mono (by rw [List.length_cons]; omega)
    · obtain ⟨last, hlast, rfl⟩ := ht.leaves_of_value hl (by omega) hvalue hcomma (by decide)
      have hlength' := length_skipSpace last
      rw [skipSpace_append hl.skipSpace_eq] at hpairs
      exact (ht.pairs (by omega) hpairs).mono (by rw [List.length_cons]; omega)

theorem value_succ (ht : Torn line fuel) (hl : ObjectLine line) (hfront : front ≠ [])
    (hfuel : 2 * front.length + line.length ≤ fuel + 1) (h : Json.value (fuel + 1) (front ++ line) = .ok (v, rest)) :
    Leaves front rest line ∨ ∃ more, rest = 't' :: more := by
  obtain ⟨c, front, rfl⟩ := List.exists_cons_of_ne_nil hfront
  rw [List.length_cons] at hfuel
  have hstart : Leaves (c :: front) (front ++ line) line := ⟨front, by simp, rfl⟩
  have hlength := length_skipSpace front
  rw [List.cons_append] at h
  rcases value_inv h with ⟨more, read, heq, hread⟩ | ⟨more, heq, hread⟩ | ⟨more, heq, hread⟩ | hread
  · obtain ⟨-, rfl⟩ := List.cons.inj heq
    exact (text_torn hl hread).imp_left fun h => h.mono (by simp)
  · obtain ⟨-, rfl⟩ := List.cons.inj heq
    rcases hread with hclose | ⟨ws, hitems⟩
    · exact Or.inl (hstart.skip hl hclose (by decide))
    · rw [skipSpace_append hl.skipSpace_eq] at hitems
      exact Or.inl ((ht.items (by omega) hitems).mono (by rw [List.length_cons]; omega))
  · obtain ⟨-, rfl⟩ := List.cons.inj heq
    rcases hread with hclose | ⟨qs, hpairs⟩
    · exact Or.inl (hstart.skip hl hclose (by decide))
    · rw [skipSpace_append hl.skipSpace_eq] at hpairs
      exact Or.inl ((ht.pairs (by omega) hpairs).mono (by rw [List.length_cons]; omega))
  · exact Or.inl (hl.leaves_of_takes (simple_takes hread))

end Torn

theorem torn (hl : ObjectLine line) (fuel : Nat) : Torn line fuel := by
  induction fuel with
  | zero =>
    refine ⟨fun _ _ h => ?_, fun hfuel => by omega, fun hfuel => by omega⟩
    cases h
  | succ fuel ih => exact ⟨ih.value_succ hl, ih.items_succ hl, ih.pairs_succ hl⟩

/-- Behind anything but spaces, the line of an object is no value and no part of one. -/
theorem read_torn (hl : ObjectLine line) (hfront : skipSpace front ≠ []) : Json.read (front ++ line) = .error .malformed := by
  have hlength := length_skipSpace front
  unfold Json.read
  rw [skipSpace_append hl.skipSpace_eq]
  cases hvalue : value (2 * (front ++ line).length + 2) (skipSpace front ++ line) with
  | error fault => cases fault; rfl
  | ok found =>
    obtain ⟨v, rest⟩ := found
    have hleft : (skipSpace rest).isEmpty = false := by
      rcases (torn hl _).value hfront (by rw [List.length_append]; omega) hvalue with ⟨left, -, rfl⟩ | ⟨more, rfl⟩
      · obtain ⟨more, hline⟩ := hl.head
        rw [skipSpace_append hl.skipSpace_eq, hline]
        simp
      · rfl
    rw [ok_bind]
    simp only [hleft]
    rfl

/-- What is written of a mapping whose first key begins so is the line of an object. -/
theorem objectLine {name : String} {entries : Entries} {cs : List Char} (hname : name.toList.head? = some 't')
    (h : chars (.map ((.text name, v) :: entries)) = .ok cs) : ObjectLine (cs ++ ['\n']) where
  head := by
    rw [chars] at h
    obtain ⟨css, hcss, h⟩ := bind_eq_ok.mp h
    obtain ⟨key, first, more, hkey, rfl, -, -⟩ := entryChars_cons hcss
    obtain rfl := Except.ok.inj h
    obtain ⟨letters, rfl⟩ : ∃ letters, key = 't' :: letters := by
      rw [keyText_text] at hkey
      rw [hkey, String.toList_ofList] at hname
      exact List.head?_eq_some_iff.mp hname
    have hletter : escapeChar 't' = ['t'] := by decide
    obtain ⟨others, hjoin⟩ : ∃ others, joinWith Value.commaSpace (pairChars ('t' :: letters) first :: more) =
        pairChars ('t' :: letters) first ++ others := by
      cases more with
      | nil => exact ⟨[], (List.append_nil _).symm⟩
      | cons next more => exact ⟨_, List.append_assoc _ _ _⟩
    rw [Value.bracketed, hjoin]
    exact ⟨letters.flatMap escapeChar ++ '"' :: ':' :: ' ' :: (first ++ (others ++ ['\x7d', '\n'])),
      by simp [pairChars, textChars, hletter]⟩
  value fuel hfuel := by
    refine ⟨_, (reads fuel).value h ?_ (ends_cons (by decide) [])⟩
    rw [List.length_append] at hfuel
    omega

end

end Json

end Curfew
