import Curfew.Text.Content
import Mathlib.Data.List.DropRight

/-! Lines written to a file and read again. Characters are read from their bytes, and lines behind one another are read
as these lines if no other line end stands in them. What is written behind a text adds lines to those that have their
end, and goes on the one that has none. -/

namespace Curfew.Text

/-! ### Bytes -/

namespace Utf8

theorem toNat_ofNat {n : Nat} (h : n < 256) : (UInt8.ofNat n).toNat = n := by
  rw [UInt8.toNat_ofNat']
  exact Nat.mod_eq_of_lt h

theorem continuation?_ofNat {bits : Nat} (h : bits < 0x40) : continuation? (UInt8.ofNat (0x80 + bits)) = some bits := by
  unfold continuation?
  rw [toNat_ofNat (by omega), if_pos (by simp; omega), Nat.add_sub_cancel_left]

section
variable {a b d e : UInt8} {first second third fourth : Nat} {c : Char}

theorem decode_one (ha : a.toNat < 0x80) (rest : List UInt8) :
    decode (a :: rest) = (decode rest).map (Char.ofNat a.toNat :: ·) := by
  rw [decode.eq_def]
  simp only [ha, ↓reduceIte]

theorem decode_two (ha : a.toNat = 0xc0 + first) (hfirst : first < 0x20) (hb : continuation? b = some second)
    (hc : character? 0x80 (first * 0x40 + second) = some c) (rest : List UInt8) :
    decode (a :: b :: rest) = (decode rest).map (c :: ·) := by
  rw [decode, ha, if_neg (by omega), if_pos (by simp; omega), Nat.add_sub_cancel_left, hb]
  simp only [Option.bind_eq_bind, Option.bind_some, hc]

theorem decode_three (ha : a.toNat = 0xe0 + first) (hfirst : first < 0x10) (hb : continuation? b = some second)
    (hd : continuation? d = some third) (hc : character? 0x800 (first * 0x1000 + second * 0x40 + third) = some c)
    (rest : List UInt8) : decode (a :: b :: d :: rest) = (decode rest).map (c :: ·) := by
  rw [decode, ha, if_neg (by omega), if_neg (by simp), if_pos (by simp; omega), Nat.add_sub_cancel_left]
  simp only [Option.bind_eq_bind, hb, hd, Option.bind_some, hc]

-- The factors stand for themselves: with the numbers in their places, the kernel would compute the products.
theorem map_four {least m k l : Nat} {after : Option (List Char)} (hb : continuation? b = some second)
    (hd : continuation? d = some third) (he : continuation? e = some fourth)
    (hc : character? least (first * m + second * k + third * l + fourth) = some c) :
    (do
      let n := first * m + (← continuation? b) * k + (← continuation? d) * l + (← continuation? e)
      let c ← character? least n
      after.map (c :: ·)) = after.map (c :: ·) := by
  simp only [hb, hd, he, Option.bind_eq_bind, Option.bind_some, hc]

theorem decode_four (ha : a.toNat = 0xf0 + first) (hfirst : first < 0x8) (hb : continuation? b = some second)
    (hd : continuation? d = some third) (he : continuation? e = some fourth)
    (hc : character? 0x10000 (first * 0x40000 + second * 0x1000 + third * 0x40 + fourth) = some c) (rest : List UInt8) :
    decode (a :: b :: d :: e :: rest) = (decode rest).map (c :: ·) := by
  rw [decode, ha, if_neg (by omega), if_neg (by simp; omega), if_neg (by simp), if_pos (by simp; omega),
    Nat.add_sub_cancel_left]
  exact map_four hb hd he hc

end

theorem character?_toNat {least n : Nat} {c : Char} (hn : n = c.toNat) (h : least ≤ c.toNat) : character? least n = some c := by
  have hvalid : Nat.isValidChar c.toNat := c.valid
  unfold character?
  rw [hn, if_pos (by simp [h, hvalid]), Char.ofNat_toNat]

/-- A character is read from its bytes, and the rest is read as it is. -/
theorem decode_encodeChar (c : Char) (rest : List UInt8) :
    decode (encodeChar c ++ rest) = (decode rest).map (c :: ·) := by
  have hlt : c.toNat < 0x110000 := by
    rcases c.valid with h | h
    · exact Nat.lt_trans h (by decide)
    · exact h.2
  have bits : ∀ n, continuation? (UInt8.ofNat (0x80 + n % 0x40)) = some (n % 0x40) := fun n =>
    continuation?_ofNat (Nat.mod_lt n (by decide))
  unfold encodeChar
  by_cases hone : c.toNat < 0x80
  · have ha := toNat_ofNat (Nat.lt_trans hone (by decide))
    rw [if_pos hone, List.singleton_append, decode_one (by rwa [ha]), ha, Char.ofNat_toNat]
  · rw [if_neg hone]
    by_cases htwo : c.toNat < 0x800
    · rw [if_pos htwo]
      exact decode_two (toNat_ofNat (by omega)) (by omega) (bits _) (character?_toNat (by omega) (by omega)) rest
    · rw [if_neg htwo]
      by_cases hthree : c.toNat < 0x10000
      · rw [if_pos hthree]
        exact decode_three (toNat_ofNat (by omega)) (by omega) (bits _) (bits _) (character?_toNat (by omega) (by omega)) rest
      · rw [if_neg hthree]
        exact decode_four (toNat_ofNat (by omega)) (by omega) (bits _) (bits _) (bits _)
          (character?_toNat (by omega) (by omega)) rest

/-- What was written is read. -/
theorem decode_encode (cs : List Char) : decode (encode cs) = some cs := by
  induction cs with
  | nil => rfl
  | cons c cs ih =>
    unfold encode at ih ⊢
    rw [List.flatMap_cons, decode_encodeChar, ih]
    rfl

theorem map_append_map (c : Char) (more : List Char) (after : Option (List Char)) :
    (after.map (more ++ ·)).map (c :: ·) = after.map (c :: more ++ ·) := by
  rw [Option.map_map]
  rfl

/-- The bytes of one character, which is read from them whatever follows. -/
structure CharBytes (unit : List UInt8) (c : Char) : Prop where
  filled : unit ≠ []
  continued : ∀ b ∈ unit.tail, continuation? b ≠ none
  read : ∀ rest, decode (unit ++ rest) = (decode rest).map (c :: ·)

/-- What can be read is the bytes of a first character and more that can be read. -/
theorem decode_inv {bs : List UInt8} {all : List Char} (hfilled : bs ≠ []) (h : decode bs = some all) :
    ∃ unit after c more, bs = unit ++ after ∧ CharBytes unit c ∧ decode after = some more ∧ all = c :: more := by
  obtain ⟨a, rest, rfl⟩ := List.exists_cons_of_ne_nil hfilled
  rw [decode.eq_def] at h
  dsimp only at h
  split at h
  · rename_i ha
    obtain ⟨more, hmore, hall⟩ := Option.map_eq_some_iff.mp h
    exact ⟨[a], rest, _, more, rfl, ⟨by simp, by simp, decode_one ha⟩, hmore, hall.symm⟩
  · split at h
    · rename_i ha
      simp only [Bool.and_eq_true, decide_eq_true_eq] at ha
      have hfirst : a.toNat = 0xc0 + (a.toNat - 0xc0) := by omega
      split at h
      · rename_i b after
        obtain ⟨second, hb, h⟩ := Option.bind_eq_some_iff.mp h
        obtain ⟨c, hc, h⟩ := Option.bind_eq_some_iff.mp h
        obtain ⟨more, hmore, hall⟩ := Option.map_eq_some_iff.mp h
        exact ⟨[a, b], after, c, more, rfl, ⟨by simp, by simp [hb], decode_two hfirst (by omega) hb hc⟩, hmore, hall.symm⟩
      · cases h
    · split at h
      · rename_i ha
        simp only [Bool.and_eq_true, decide_eq_true_eq] at ha
        have hfirst : a.toNat = 0xe0 + (a.toNat - 0xe0) := by omega
        split at h
        · rename_i b d after
          obtain ⟨second, hb, h⟩ := Option.bind_eq_some_iff.mp h
          obtain ⟨third, hd, h⟩ := Option.bind_eq_some_iff.mp h
          obtain ⟨c, hc, h⟩ := Option.bind_eq_some_iff.mp h
          obtain ⟨more, hmore, hall⟩ := Option.map_eq_some_iff.mp h
          exact ⟨[a, b, d], after, c, more, rfl, ⟨by simp, by simp [hb, hd], decode_three hfirst (by omega) hb hd hc⟩, hmore, hall.symm⟩
        · cases h
      · split at h
        · rename_i ha
          simp only [Bool.and_eq_true, decide_eq_true_eq] at ha
          have hfirst : a.toNat = 0xf0 + (a.toNat - 0xf0) := by omega
          split at h
          · rename_i b d e after
            obtain ⟨second, hb, h⟩ := Option.bind_eq_some_iff.mp h
            obtain ⟨third, hd, h⟩ := Option.bind_eq_some_iff.mp h
            obtain ⟨fourth, he, h⟩ := Option.bind_eq_some_iff.mp h
            obtain ⟨c, hc, h⟩ := Option.bind_eq_some_iff.mp h
            obtain ⟨more, hmore, hall⟩ := Option.map_eq_some_iff.mp h
            exact ⟨[a, b, d, e], after, c, more, rfl,
              ⟨by simp, by simp [hb, hd, he], decode_four hfirst (by omega) hb hd he hc⟩, hmore, hall.symm⟩
          · cases h
        · cases h

/-- The first byte of a character continues no other one. -/
theorem continuation?_head (c : Char) : ∃ x more, encodeChar c = x :: more ∧ continuation? x = none := by
  have hsize : c.toNat < 0x110000 := by
    have hvalid := c.valid
    unfold UInt32.isValidChar Nat.isValidChar at hvalid
    unfold Char.toNat
    omega
  have hfresh : ∀ n < 256, ¬(0x80 ≤ n ∧ n < 0xc0) → continuation? (UInt8.ofNat n) = none := by
    intro n hn hout
    unfold continuation?
    rw [toNat_ofNat hn, if_neg (by simpa using hout)]
  unfold encodeChar
  dsimp only
  split
  · exact ⟨_, _, rfl, hfresh _ (by omega) (by omega)⟩
  · split
    · exact ⟨_, _, rfl, hfresh _ (by omega) (by omega)⟩
    · split
      · exact ⟨_, _, rfl, hfresh _ (by omega) (by omega)⟩
      · exact ⟨_, _, rfl, hfresh _ (by omega) (by omega)⟩

theorem continuation?_encode (cs : List Char) : ∀ x ∈ (encode cs).head?, continuation? x = none := by
  cases cs with
  | nil => simp [encode]
  | cons c cs =>
    obtain ⟨x, more, hc, hx⟩ := continuation?_head c
    simpa [encode, hc] using hx

/-- What stands in front is read as it is read alone. -/
theorem decode_append {bs : List UInt8} {cs : List Char} (h : decode bs = some cs) (rest : List UInt8) :
    decode (bs ++ rest) = (decode rest).map (cs ++ ·) := by
  by_cases hbs : bs = []
  · subst hbs
    obtain rfl : [] = cs := Option.some.inj h
    simp
  · obtain ⟨unit, after, c, more, rfl, hunit, hmore, rfl⟩ := decode_inv hbs h
    have hshorter := List.length_pos_iff.mpr hunit.filled
    rw [List.append_assoc, hunit.read, decode_append hmore rest, map_append_map]
termination_by bs.length
decreasing_by
  subst bs
  simp only [List.length_append]
  omega

/-- What stands in front of whole characters can be read if all of it can. -/
theorem decode_front {bs ending : List UInt8} {all : List Char} (hending : ∀ x ∈ ending.head?, continuation? x = none)
    (h : decode (bs ++ ending) = some all) : ∃ cs, decode bs = some cs := by
  by_cases hbs : bs = []
  · exact ⟨[], by rw [hbs, decode]⟩
  · obtain ⟨unit, after, c, more, heq, hunit, hmore, -⟩ := decode_inv (by simp [hbs]) h
    rcases List.append_eq_append_iff.mp heq with ⟨inner, rfl, hinner⟩ | ⟨left, rfl, rfl⟩
    · cases inner with
      | nil =>
        have hread := hunit.read []
        rw [List.append_nil, List.append_nil] at hread
        exact ⟨_, hread⟩
      | cons x inner =>
        -- The character would go on behind the front.
        have hx := hending x (by simp [hinner])
        refine absurd hx (hunit.continued x ?_)
        rw [List.tail_append_of_ne_nil hbs]
        simp
    · have hshorter := List.length_pos_iff.mpr hunit.filled
      obtain ⟨cs, hcs⟩ := decode_front hending hmore
      exact ⟨c :: cs, by rw [hunit.read, hcs]; rfl⟩
termination_by bs.length
decreasing_by
  subst bs
  simp only [List.length_append]
  omega

end Utf8

/-! ### Line ends -/

theorem withLineFeeds_eq_self {cs : List Char} (h : '\r' ∉ cs) : withLineFeeds cs = cs := by
  induction cs with
  | nil => rfl
  | cons c cs ih =>
    obtain ⟨hc, hcs⟩ := not_or.mp (mt List.mem_cons.mpr h)
    rw [withLineFeeds, ih hcs]
    · rintro _ rfl _
      exact hc rfl
    · rintro rfl
      exact hc rfl

theorem lines_append {cs : List Char} (h : '\n' ∉ cs) (rest : List Char) :
    lines (cs ++ '\n' :: rest) = (cs ++ ['\n']) :: lines rest := by
  induction cs with
  | nil => simp [lines]
  | cons c cs ih =>
    obtain ⟨hc, hcs⟩ := not_or.mp (mt List.mem_cons.mpr h)
    rw [List.cons_append, lines, if_neg (Ne.symm hc), ih hcs]
    rfl

/-- Texts without a line end are the lines of what is made of them, each with its end. -/
theorem lines_flatMap {css : List (List Char)} (h : ∀ cs ∈ css, '\n' ∉ cs) :
    lines (css.flatMap (· ++ ['\n'])) = css.map (· ++ ['\n']) := by
  induction css with
  | nil => rfl
  | cons cs css ih =>
    obtain ⟨hcs, hcss⟩ := List.forall_mem_cons.mp h
    rw [List.flatMap_cons, List.append_assoc, List.singleton_append, lines_append hcs, ih hcss, List.map_cons]

/-- The lines that are made of texts hold no carriage return that is not in a text. -/
theorem return_not_mem_flatMap {css : List (List Char)} (h : ∀ cs ∈ css, '\r' ∉ cs) : '\r' ∉ css.flatMap (· ++ ['\n']) := by
  intro hmem
  obtain ⟨cs, hcs, hmem⟩ := List.mem_flatMap.mp hmem
  rcases List.mem_append.mp hmem with hmem | hmem
  · exact h cs hcs hmem
  · simp at hmem

/-- What does not begin with a line feed is not half of a line end. -/
theorem withLineFeeds_append {cs ds : List Char} (h : ds.head? ≠ some '\n') :
    withLineFeeds (cs ++ ds) = withLineFeeds cs ++ withLineFeeds ds := by
  fun_induction withLineFeeds cs with
  | case1 cs ih => rw [List.cons_append, List.cons_append, withLineFeeds, ih, List.cons_append]
  | case2 cs hne ih =>
    rw [List.cons_append, withLineFeeds, ih, List.cons_append]
    rintro more heq
    -- The line feed behind this carriage return would be the first character of `ds`.
    cases cs with
    | nil => exact h (by rw [← List.nil_append ds, heq]; rfl)
    | cons c cs => exact hne cs (by rw [(List.cons.inj heq).1])
  | case3 c cs _ hne ih =>
    rw [List.cons_append, withLineFeeds, ih, List.cons_append]
    · exact fun _ hc _ => hne hc
    · exact hne
  | case4 => rfl

/-! ### The end of a text -/

theorem lines_eq_nil {cs : List Char} : lines cs = [] ↔ cs = [] := by
  cases cs with
  | nil => simp [lines]
  | cons c cs =>
    rw [lines]
    split
    · simp
    · split <;> simp

/-- Behind a line end a new line begins. -/
theorem lines_concat_append (cs rest : List Char) : lines (cs ++ '\n' :: rest) = lines (cs ++ ['\n']) ++ lines rest := by
  induction cs with
  | nil => simp [lines]
  | cons c cs ih =>
    rw [List.cons_append, List.cons_append, lines, lines]
    split
    · rw [ih, List.cons_append]
    · rw [ih]
      cases hlines : lines (cs ++ ['\n']) with
      | nil => exact absurd (lines_eq_nil.mp hlines) (by simp)
      | cons line more => rfl

/-- The text up to its last line end. -/
def closed (cs : List Char) : List Char := cs.rdropWhile (· ≠ '\n')

/-- What stands behind the last line end of a text. -/
def openEnd (cs : List Char) : List Char := cs.rtakeWhile (· ≠ '\n')

theorem closed_append_openEnd (cs : List Char) : closed cs ++ openEnd cs = cs := List.rdropWhile_append_rtakeWhile

theorem lineFeed_not_mem_openEnd (cs : List Char) : '\n' ∉ openEnd cs :=
  fun hmem => by simpa using List.mem_rtakeWhile_imp hmem

theorem lines_closed_append (cs rest : List Char) : lines (closed cs ++ rest) = lines (closed cs) ++ lines rest := by
  by_cases hnil : closed cs = []
  · rw [hnil]
    rfl
  · have hlast : (closed cs).getLast hnil = '\n' := by simpa [closed] using List.rdropWhile_last_not _ _ hnil
    have hclosed : closed cs = (closed cs).dropLast ++ ['\n'] := by
      rw [← hlast, List.dropLast_concat_getLast]
    rw [hclosed, List.append_assoc, List.singleton_append]
    exact lines_concat_append _ rest

/-! ### Files -/

theorem Content.ofBytes_of_decode {bs : List UInt8} {cs : List Char} (h : Utf8.decode bs = some cs) :
    Content.ofBytes bs = { chars := withLineFeeds cs, isWhole := true } := by
  unfold ofBytes
  rw [h]

theorem Content.ofBytes_encode {cs : List Char} (h : '\r' ∉ cs) :
    Content.ofBytes (Utf8.encode cs) = { chars := cs, isWhole := true } := by
  rw [ofBytes_of_decode (Utf8.decode_encode cs), withLineFeeds_eq_self h]

/-- Texts without a line end, each written on a line of its own, are the lines of the file. -/
theorem Content.lines_ofBytes {css : List (List Char)} (h : ∀ cs ∈ css, '\n' ∉ cs ∧ '\r' ∉ cs) :
    (Content.ofBytes (Utf8.encode (css.flatMap (· ++ ['\n'])))).isWhole = true ∧
    (Content.ofBytes (Utf8.encode (css.flatMap (· ++ ['\n'])))).lines = css.map (· ++ ['\n']) := by
  have hreturn := return_not_mem_flatMap fun cs hcs => (h cs hcs).2
  have hlines := lines_flatMap fun cs hcs => (h cs hcs).1
  rw [ofBytes_encode hreturn]
  exact ⟨rfl, hlines⟩

end Curfew.Text
