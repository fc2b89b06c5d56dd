import Curfew.Proofs.Json.Floats
import Curfew.Proofs.Value.Entries

/-! Values written and read again. Whatever can be written is read from its line, whatever follows it that cannot go on a
number. A value without floats whose mappings have distinct texts as keys is read as it was; of others comes what JSON
has a form for. -/

namespace Curfew
namespace Json

open Text

/-! ### Values that are kept -/

mutual

/-- A value without floats whose mappings have distinct texts as keys. -/
def Kept : Value → Prop
  | .null => True
  | .bool _ => True
  | .int _ => True
  | .text _ => True
  | .list items => AllKept items
  | .map entries => (entries.map (·.1)).Nodup ∧ EntriesKept entries
  | _ => False

def AllKept : List Value → Prop
  | [] => True
  | item :: items => Kept item ∧ AllKept items

def EntriesKept : List (Value × Value) → Prop
  | [] => True
  | (key, value) :: entries => (∃ name, key = .text name) ∧ Kept value ∧ EntriesKept entries

end

theorem text_of_entriesKept {entries : List (Value × Value)} (h : EntriesKept entries) :
    ∀ entry ∈ entries, ∃ name, entry.1 = .text name := by
  induction entries with
  | nil => simp
  | cons entry entries ih =>
    obtain ⟨key, value⟩ := entry
    obtain ⟨hkey, -, hrest⟩ := h
    exact List.forall_mem_cons.mpr ⟨hkey, ih hrest⟩

/-! ### What is read of a value -/

/-- The text of a key that an object can have. -/
def keyText (key : Value) : String := String.ofList ((keyChars key).toOption.getD [])

mutual

/-- The value that is read from what is written of a value. Tuples come back as lists, what has no form of its own as
the text that stands for it, and of keys with one text the last one counts. -/
def returned : Value → Value
  | .null => .null
  | .bool b => .bool b
  | .int i => .int i
  | .float x => .float x.readAgain
  | .text s => .text s
  | .list items => .list (allReturned items)
  | .tuple items => .list (allReturned items)
  | .map entries => .map (Value.entriesOf (entriesReturned entries))
  | v => .text (String.ofList v.plain)

def allReturned : List Value → List Value
  | [] => []
  | item :: items => returned item :: allReturned items

def entriesReturned : List (Value × Value) → List (Value × Value)
  | [] => []
  | (key, value) :: entries => (.text (keyText key), returned value) :: entriesReturned entries

end

theorem keyText_text (name : String) : keyText (.text name) = name := String.ofList_toList

mutual

/-- A value that is kept comes back as it was. -/
theorem returned_of_kept : ∀ {v : Value}, Kept v → returned v = v
  | .null, _ => rfl
  | .bool _, _ => rfl
  | .int _, _ => rfl
  | .text _, _ => rfl
  | .list vs, hv => by rw [returned, allReturned_of_kept hv]
  | .map entries, hv => by
    rw [returned, entriesReturned_of_kept hv.2, Value.entriesOf_eq_self (text_of_entriesKept hv.2) hv.1]
  | .float _, hv | .bytes _, hv | .time _, hv | .tuple _, hv | .set _, hv => absurd hv (by simp [Kept])

theorem allReturned_of_kept : ∀ {vs : List Value}, AllKept vs → allReturned vs = vs
  | [], _ => rfl
  | item :: vs, hvs => by rw [allReturned, returned_of_kept hvs.1, allReturned_of_kept hvs.2]

theorem entriesReturned_of_kept : ∀ {entries : List (Value × Value)}, EntriesKept entries → entriesReturned entries = entries
  | [], _ => rfl
  | (key, v) :: entries, hentries => by
    obtain ⟨⟨name, rfl⟩, hv, hrest⟩ := hentries
    rw [entriesReturned, keyText_text, returned_of_kept hv, entriesReturned_of_kept hrest]

end

/-! ### How what is written begins -/

/-- What a value is written as begins with no space and with no closing bracket. -/
def Starts (cs : List Char) : Prop := ∃ c more, cs = c :: more ∧ isSpace c = false ∧ c ≠ ']' ∧ c ≠ '\x7d'

theorem Starts.append {cs : List Char} (h : Starts cs) (rest : List Char) : Starts (cs ++ rest) := by
  obtain ⟨c, more, rfl, hc⟩ := h
  exact ⟨c, more ++ rest, rfl, hc⟩

theorem skipSpace_cons {c : Char} (h : isSpace c = false) (more : List Char) : skipSpace (c :: more) = c :: more := by
  rw [skipSpace, List.dropWhile_cons_of_neg (by simp [h])]

theorem Starts.skipSpace {cs : List Char} (h : Starts cs) : Json.skipSpace cs = cs := by
  obtain ⟨c, more, rfl, hspace, -⟩ := h
  exact skipSpace_cons hspace more

theorem skipSpace_append {ending : List Char} (h : skipSpace ending = ending) (front : List Char) :
    skipSpace (front ++ ending) = skipSpace front ++ ending := by
  induction front with
  | nil => exact h
  | cons c front ih =>
    by_cases hc : isSpace c = true
    · rw [List.cons_append, skipSpace, List.dropWhile_cons_of_pos hc, skipSpace, List.dropWhile_cons_of_pos hc]
      exact ih
    · rw [List.cons_append, skipSpace, List.dropWhile_cons_of_neg hc, skipSpace, List.dropWhile_cons_of_neg hc,
        List.cons_append]

/-- What begins with none of these is a number or a word, if it is anything. -/
def marks : List Char := ['"', '[', '\x7b', ']', '\x7d', ' ', '\t', '\n', '\r']

/-- A text that begins like a number or a word. -/
def Bare (cs : List Char) : Prop := ∃ c more, cs = c :: more ∧ c ∉ marks

theorem Bare.starts {cs : List Char} (h : Bare cs) : Starts cs := by
  obtain ⟨c, more, rfl, hc⟩ := h
  simp only [marks, List.mem_cons, List.not_mem_nil, not_or, or_false] at hc
  exact ⟨c, more, rfl, by simp [isSpace, hc], hc.2.2.2.1, hc.2.2.2.2.1⟩

theorem bare_of_head {cs : List Char} (h : ∃ c more, c.isDigit = true ∧ (cs = c :: more ∨ cs = '-' :: c :: more)) : Bare cs := by
  obtain ⟨c, more, hdigit, rfl | rfl⟩ := h
  · refine ⟨c, more, rfl, fun hc => ?_⟩
    simp only [marks, List.mem_cons, List.not_mem_nil, or_false] at hc
    rcases hc with rfl | rfl | rfl | rfl | rfl | rfl | rfl | rfl | rfl <;> exact absurd hdigit (by decide)
  · exact ⟨'-', c :: more, rfl, by decide⟩

theorem bare_floatChars (x : Binary64) : Bare (floatChars x) := by
  cases x with
  | finite negative significand exponent =>
    obtain ⟨n, hn, hchars, -⟩ := Binary64.isDouble_chars negative significand exponent
    rw [floatChars_finite, ← hchars]
    exact bare_of_head hn.head
  | infinite negative => cases negative <;> exact ⟨_, _, rfl, by decide⟩
  | nan => exact ⟨_, _, rfl, by decide⟩

theorem starts_textChars (cs : List Char) : Starts (textChars cs) := ⟨'"', _, rfl, by decide⟩

theorem starts_bracketed {opening closing : Char} (h : isSpace opening = false ∧ opening ≠ ']' ∧ opening ≠ '\x7d')
    (css : List (List Char)) : Starts (Value.bracketed opening closing css) := ⟨opening, _, rfl, h⟩

theorem starts_chars {v : Value} {cs : List Char} (h : chars v = .ok cs) : Starts cs := by
  cases v with
  | null =>
    cases h
    exact ⟨'n', _, rfl, by decide⟩
  | bool b =>
    cases b <;> cases h
    · exact ⟨'f', _, rfl, by decide⟩
    · exact ⟨'t', _, rfl, by decide⟩
  | int i =>
    rw [chars] at h
    obtain rfl := Except.ok.inj h
    exact (bare_of_head (decimalChars_head i)).starts
  | float x =>
    rw [chars] at h
    obtain rfl := Except.ok.inj h
    exact (bare_floatChars x).starts
  | list items | tuple items =>
    rw [chars] at h
    obtain ⟨css, -, h⟩ := bind_eq_ok.mp h
    cases h
    exact starts_bracketed (by decide) css
  | map entries =>
    rw [chars] at h
    obtain ⟨css, -, h⟩ := bind_eq_ok.mp h
    cases h
    exact starts_bracketed (by decide) css
  | _ =>
    cases h
    exact starts_textChars _

/-! ### Reading what was written -/

section
variable {fuel : Nat} {rest : List Char}

theorem value_bare {cs : List Char} (h : Bare cs) : value (fuel + 1) (cs ++ rest) = simple (cs ++ rest) := by
  obtain ⟨c, more, rfl, hc⟩ := h
  rw [List.cons_append, value]
  · rintro _ ⟨⟩
    exact hc (by decide)
  · rintro _ ⟨⟩
    exact hc (by decide)
  · rintro _ ⟨⟩
    exact hc (by decide)

theorem value_quote (inner : List Char) : value (fuel + 1) ('"' :: inner) =
    (text fuel inner).map fun found => (.text (String.ofList found.1), found.2) := by
  show (text fuel inner >>= fun found => .ok (Value.text (String.ofList found.1), found.2)) = _
  cases text fuel inner <;> rfl

theorem value_textChars {cs : List Char} (hfuel : cs.length < fuel) :
    value (fuel + 1) (textChars cs ++ rest) = .ok (.text (String.ofList cs), rest) := by
  have hread : text fuel (cs.flatMap escapeChar ++ '"' :: rest) = .ok (cs, rest) := text_flatMap cs hfuel
  have hchars : textChars cs ++ rest = '"' :: (cs.flatMap escapeChar ++ '"' :: rest) := by
    simp [textChars]
  rw [hchars, value_quote, hread]
  rfl

/-! ### Lists and mappings -/

variable {item : Value} {name cs inner more : List Char}

/-- Behind a bracket that is not closed at once stand the items of a list or the pairs of a mapping. -/
theorem value_opening (h : Starts inner) :
    value (fuel + 1) ('[' :: inner) = ((items fuel inner).map fun found => (.list found.1, found.2)) ∧
    value (fuel + 1) ('\x7b' :: inner) =
      (pairs fuel inner).map fun found => (.map (Value.entriesOf found.1), found.2) := by
  have hskip := h.skipSpace
  obtain ⟨c, more, rfl, -, hclose, hbrace⟩ := h
  constructor
  · rw [value, hskip]
    split
    · rename_i heq
      exact absurd (List.cons.inj heq).1 hclose
    · cases items fuel (c :: more) <;> rfl
  · rw [value, hskip]
    split
    · rename_i heq
      exact absurd (List.cons.inj heq).1 hbrace
    · cases pairs fuel (c :: more) <;> rfl

/-- Behind an item the list ends, or more are read behind a comma. -/
theorem items_item (hread : value fuel cs = .ok (item, rest)) :
    (∀ after, rest = ']' :: after → items (fuel + 1) cs = .ok ([item], after)) ∧
    (∀ more, rest = ',' :: ' ' :: more → Starts more →
      items (fuel + 1) cs = (items fuel more).map fun found => (item :: found.1, found.2)) := by
  have hspace : ∀ cs, skipSpace (' ' :: cs) = skipSpace cs := fun _ => rfl
  rw [items, hread, ok_bind]
  dsimp only
  constructor
  · rintro after rfl
    rw [skipSpace_cons (by decide)]
    rfl
  · rintro more rfl hmore
    rw [skipSpace_cons (by decide)]
    simp only [hspace, hmore.skipSpace]
    cases items fuel more <;> rfl

/-- The text of a pair with what stands behind its name. -/
def pairChars (name cs : List Char) : List Char := textChars name ++ ':' :: ' ' :: cs

/-- A pair is read with its name and its value, and more are read behind a comma. -/
theorem pairs_pairChars (hname : name.length < fuel) (h : Starts cs) (hread : value fuel cs = .ok (item, rest)) :
    (∀ after, rest = '\x7d' :: after → pairs (fuel + 1) (pairChars name cs) = .ok ([(.text (String.ofList name), item)], after)) ∧
    (∀ more, rest = ',' :: ' ' :: more → Starts more → pairs (fuel + 1) (pairChars name cs) =
      (pairs fuel more).map fun found => ((.text (String.ofList name), item) :: found.1, found.2)) := by
  have hspace : ∀ cs, skipSpace (' ' :: cs) = skipSpace cs := fun _ => rfl
  have hkey : text fuel (name.flatMap escapeChar ++ '"' :: ':' :: ' ' :: cs) = .ok (name, ':' :: ' ' :: cs) :=
    text_flatMap name hname
  have hchars : pairChars name cs = '"' :: (name.flatMap escapeChar ++ '"' :: ':' :: ' ' :: cs) := by
    simp [pairChars, textChars]
  rw [hchars, pairs, hkey, ok_bind]
  dsimp only
  rw [skipSpace_cons (by decide)]
  simp only [hspace, h.skipSpace, hread, ok_bind]
  constructor
  · rintro after rfl
    rw [skipSpace_cons (by decide)]
    rfl
  · rintro more rfl hmore
    rw [skipSpace_cons (by decide)]
    simp only [hspace, hmore.skipSpace]
    cases pairs fuel more <;> rfl

end

/-! ### Any value -/

theorem itemChars_cons {item : Value} {items : List Value} {css : List (List Char)} (h : itemChars (item :: items) = .ok css) :
    ∃ first more, css = first :: more ∧ chars item = .ok first ∧ itemChars items = .ok more := by
  rw [itemChars] at h
  obtain ⟨first, hfirst, h⟩ := bind_eq_ok.mp h
  obtain ⟨more, hmore, h⟩ := bind_eq_ok.mp h
  exact ⟨first, more, (Except.ok.inj h).symm, hfirst, hmore⟩

theorem entryChars_cons {key v : Value} {entries : List (Value × Value)} {css : List (List Char)}
    (h : entryChars ((key, v) :: entries) = .ok css) : ∃ name first more, keyText key = String.ofList name ∧
      css = pairChars name first :: more ∧ chars v = .ok first ∧ entryChars entries = .ok more := by
  rw [entryChars] at h
  obtain ⟨name, hname, h⟩ := bind_eq_ok.mp h
  obtain ⟨first, hfirst, h⟩ := bind_eq_ok.mp h
  obtain ⟨more, hmore, h⟩ := bind_eq_ok.mp h
  refine ⟨name, first, more, ?_, (Except.ok.inj h).symm, hfirst, hmore⟩
  unfold keyText
  rw [hname]
  rfl

theorem pairChars_append (name cs rest : List Char) : pairChars name cs ++ rest = pairChars name (cs ++ rest) := by
  simp [pairChars]

theorem length_pairChars (name cs : List Char) : name.length + cs.length < (pairChars name cs).length := by
  have hlength := length_le_flatMap name
  simp only [pairChars, textChars, List.length_append, List.length_cons, List.length_nil]
  omega

theorem starts_pairChars (name cs : List Char) : Starts (pairChars name cs) := ⟨'"', _, rfl, by decide⟩

theorem starts_joinWith {first : List Char} (h : Starts first) (more : List (List Char)) :
    Starts (joinWith Value.commaSpace (first :: more)) := by
  cases more with
  | nil => exact h
  | cons next more =>
    rw [joinWith, List.append_assoc]
    exact h.append _

theorem joinWith_cons (first next : List Char) (more : List (List Char)) (rest : List Char) :
    joinWith Value.commaSpace (first :: next :: more) ++ rest =
      first ++ ',' :: ' ' :: (joinWith Value.commaSpace (next :: more) ++ rest) := by
  simp [joinWith, Value.commaSpace]

theorem length_joinWith (first next : List Char) (more : List (List Char)) :
    (joinWith Value.commaSpace (first :: next :: more)).length =
      first.length + 2 + (joinWith Value.commaSpace (next :: more)).length := by
  simp only [joinWith, Value.commaSpace, List.length_append, List.length_cons, List.length_nil]

/-- So much fuel is enough to read what is written no longer than that. -/
structure Reads (fuel : Nat) : Prop where
  value : ∀ {v cs rest}, chars v = .ok cs → cs.length ≤ fuel → Ends rest →
    Json.value fuel (cs ++ rest) = .ok (returned v, rest)
  items : ∀ {item vs css rest}, itemChars (item :: vs) = .ok css → (joinWith Value.commaSpace css).length < fuel →
    Json.items fuel (joinWith Value.commaSpace css ++ ']' :: rest) = .ok (allReturned (item :: vs), rest)
  pairs : ∀ {entry entries css rest}, entryChars (entry :: entries) = .ok css → (joinWith Value.commaSpace css).length < fuel →
    Json.pairs fuel (joinWith Value.commaSpace css ++ '\x7d' :: rest) = .ok (entriesReturned (entry :: entries), rest)

section
variable {fuel : Nat} {v item : Value} {entry : Value × Value} {vs : List Value} {entries : List (Value × Value)}
  {cs rest : List Char} {css : List (List Char)}

namespace Reads

theorem list (hr : Reads fuel) (h : itemChars vs = .ok css) (hfuel : (Value.bracketed '[' ']' css).length ≤ fuel + 1) :
    Json.value (fuel + 1) (Value.bracketed '[' ']' css ++ rest) = .ok (.list (allReturned vs), rest) := by
  cases vs with
  | nil =>
    cases h
    rfl
  | cons item vs =>
    obtain ⟨first, more, rfl, hfirst, -⟩ := itemChars_cons h
    have hinner := (starts_joinWith (starts_chars hfirst) more).append (']' :: rest)
    have hlength : (joinWith Value.commaSpace (first :: more)).length < fuel := by
      simp only [Value.bracketed, List.length_append, List.length_cons, List.length_nil] at hfuel
      omega
    simp only [Value.bracketed, List.cons_append, List.append_assoc, List.nil_append]
    rw [(value_opening hinner).1, hr.items h hlength]
    rfl

theorem map (hr : Reads fuel) (h : entryChars entries = .ok css)
    (hfuel : (Value.bracketed '\x7b' '\x7d' css).length ≤ fuel + 1) :
    Json.value (fuel + 1) (Value.bracketed '\x7b' '\x7d' css ++ rest) =
      .ok (.map (Value.entriesOf (entriesReturned entries)), rest) := by
  cases entries with
  | nil =>
    cases h
    rfl
  | cons entry entries =>
    obtain ⟨name, first, more, -, rfl, -, -⟩ := entryChars_cons h
    have hinner := (starts_joinWith (starts_pairChars name first) more).append ('\x7d' :: rest)
    have hlength : (joinWith Value.commaSpace (pairChars name first :: more)).length < fuel := by
      simp only [Value.bracketed, List.length_append, List.length_cons, List.length_nil] at hfuel
      omega
    simp only [Value.bracketed, List.cons_append, List.append_assoc, List.nil_append]
    rw [(value_opening hinner).2, hr.pairs h hlength]
    rfl

theorem text (hlength : (textChars cs).length ≤ fuel + 1) :
    Json.value (fuel + 1) (textChars cs ++ rest) = .ok (.text (String.ofList cs), rest) := by
  have hescaped := length_le_flatMap cs
  refine value_textChars ?_
  simp only [textChars, List.length_cons, List.length_append] at hlength
  omega

theorem value_succ (hr : Reads fuel) (h : chars v = .ok cs) (hfuel : cs.length ≤ fuel + 1) (hends : Ends rest) :
    Json.value (fuel + 1) (cs ++ rest) = .ok (returned v, rest) := by
  cases v with
  | null =>
    cases h
    have hword : ("null", .null) ∈ words := by simp [words]
    exact (value_bare ⟨_, _, rfl, by decide⟩).trans (simple_word hword rest)
  | bool b =>
    have hfalse : ("false", .bool false) ∈ words := by simp [words]
    have htrue : ("true", .bool true) ∈ words := by simp [words]
    cases b <;> cases h
    · exact (value_bare ⟨_, _, rfl, by decide⟩).trans (simple_word hfalse rest)
    · exact (value_bare ⟨_, _, rfl, by decide⟩).trans (simple_word htrue rest)
  | int i =>
    rw [chars] at h
    obtain rfl := Except.ok.inj h
    exact (value_bare (bare_of_head (decimalChars_head i))).trans (simple_decimalChars hends i)
  | float x =>
    rw [chars] at h
    obtain rfl := Except.ok.inj h
    exact (value_bare (bare_floatChars x)).trans (simple_floatChars hends x)
  | text s =>
    rw [chars] at h
    obtain rfl := Except.ok.inj h
    rw [Reads.text hfuel, String.ofList_toList]
    rfl
  | list vs | tuple vs =>
    rw [chars] at h
    obtain ⟨css, hcss, h⟩ := bind_eq_ok.mp h
    obtain rfl := Except.ok.inj h
    exact hr.list hcss hfuel
  | map entries =>
    rw [chars] at h
    obtain ⟨css, hcss, h⟩ := bind_eq_ok.mp h
    obtain rfl := Except.ok.inj h
    exact hr.map hcss hfuel
  | _ =>
    obtain rfl := Except.ok.inj h
    exact Reads.text hfuel

theorem items_succ (hr : Reads fuel) (h : itemChars (item :: vs) = .ok css)
    (hfuel : (joinWith Value.commaSpace css).length < fuel + 1) :
    Json.items (fuel + 1) (joinWith Value.commaSpace css ++ ']' :: rest) = .ok (allReturned (item :: vs), rest) := by
  obtain ⟨first, more, rfl, hfirst, hmore⟩ := itemChars_cons h
  cases vs with
  | nil =>
    cases hmore
    have hread : Json.value fuel (first ++ ']' :: rest) = .ok (returned item, ']' :: rest) :=
      hr.value hfirst (Nat.le_of_lt_succ hfuel) (ends_cons (by decide) rest)
    exact (items_item hread).1 rest rfl
  | cons next vs =>
    obtain ⟨second, others, rfl, hsecond, -⟩ := itemChars_cons hmore
    have hstarts := (starts_joinWith (starts_chars hsecond) others).append (']' :: rest)
    rw [length_joinWith] at hfuel
    have hread : ∀ after, Json.value fuel (first ++ ',' :: ' ' :: after) = .ok (returned item, ',' :: ' ' :: after) :=
      fun after => hr.value hfirst (by omega) (ends_cons (by decide) _)
    rw [joinWith_cons, (items_item (hread _)).2 _ rfl hstarts, hr.items hmore (by omega)]
    rfl

theorem pairs_succ (hr : Reads fuel) (h : entryChars (entry :: entries) = .ok css)
    (hfuel : (joinWith Value.commaSpace css).length < fuel + 1) :
    Json.pairs (fuel + 1) (joinWith Value.commaSpace css ++ '\x7d' :: rest) =
      .ok (entriesReturned (entry :: entries), rest) := by
  obtain ⟨key, item⟩ := entry
  obtain ⟨name, first, more, hkey, rfl, hfirst, hmore⟩ := entryChars_cons h
  have hlength := length_pairChars name first
  have hread : ∀ after, first.length ≤ fuel → Ends after → Json.value fuel (first ++ after) = .ok (returned item, after) :=
    fun after => hr.value hfirst
  rw [entriesReturned, hkey]
  cases entries with
  | nil =>
    cases hmore
    rw [joinWith] at hfuel ⊢
    have hname : name.length < fuel := by omega
    have hvalue := hread ('\x7d' :: rest) (by omega) (ends_cons (by decide) rest)
    rw [pairChars_append]
    exact (pairs_pairChars hname ((starts_chars hfirst).append _) hvalue).1 rest rfl
  | cons next entries =>
    obtain ⟨name', second, others, -, rfl, -, -⟩ := entryChars_cons hmore
    have hstarts := (starts_joinWith (starts_pairChars name' second) others).append ('\x7d' :: rest)
    rw [length_joinWith] at hfuel
    have hname : name.length < fuel := by omega
    have hvalue := fun after => hread (',' :: after) (by omega) (ends_cons (by decide) after)
    have hpairs := (pairs_pairChars hname ((starts_chars hfirst).append _) (hvalue _)).2 _ rfl hstarts
    rw [joinWith_cons, pairChars_append, hpairs, hr.pairs hmore (by omega)]
    rfl

end Reads

theorem reads (fuel : Nat) : Reads fuel := by
  induction fuel with
  | zero =>
    refine ⟨fun h hfuel _ => ?_, fun _ hfuel => by omega, fun _ hfuel => by omega⟩
    obtain ⟨c, more, rfl, -⟩ := starts_chars h
    simp at hfuel
  | succ fuel ih => exact ⟨ih.value_succ, ih.items_succ, ih.pairs_succ⟩

end

/-- Behind spaces, what was written of a value is read. -/
theorem read_spaced {v : Value} {cs front : List Char} (h : chars v = .ok cs) (hfront : skipSpace front = []) :
    read (front ++ (cs ++ ['\n'])) = .ok (returned v) := by
  have hskip := skipSpace_append ((starts_chars h).append ['\n']).skipSpace front
  have hlength : cs.length ≤ 2 * (front ++ (cs ++ ['\n'])).length + 2 := by
    simp only [List.length_append]
    omega
  unfold read
  rw [hskip, hfront, List.nil_append, (reads _).value h hlength (ends_cons (by decide) []), ok_bind]
  rfl

/-- Whatever was written is read. -/
theorem read_chars {v : Value} {cs : List Char} (h : chars v = .ok cs) : read (cs ++ ['\n']) = .ok (returned v) :=
  @read_spaced v cs [] h rfl

end Json

end Curfew
