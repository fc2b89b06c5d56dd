import Curfew.Value.Basic
import Mathlib.Data.List.Nodup

/-! Mappings whose keys are told apart. A value under a key that is a text is found there, and putting entries one after
the other into a mapping gives just these entries. Whatever the keys are, the first one stays the first. -/

namespace Curfew
namespace Value
variable {v : Value}

theorem same_text {k : Value} {name : String} : same k (.text name) = true ↔ k = .text name := by
  cases k <;> simp [same, sameNumber, number?]

theorem same_of_text {k : Value} {name : String} (h : same (.text name) k = true) : k = .text name := by
  cases k with
  | text s =>
    rw [same, beq_iff_eq] at h
    rw [h]
  | _ => simp [same, sameNumber, number?] at h

theorem text_of_find? {name : String} {es : Entries} {found : Value × Value}
    (h : es.find? (fun entry => same entry.1 (.text name)) = some found) : found.1 = .text name ∧ found ∈ es := by
  have hsame := List.find?_some h
  exact ⟨same_text.mp hsame, List.mem_of_find?_eq_some h⟩

theorem field?_eq_some {name : String} {es : Entries} (hn : (es.map (·.1)).Nodup) :
    field? name es = some v ↔ (.text name, v) ∈ es := by
  unfold field? get?
  simp only [Option.map_eq_some_iff]
  constructor
  · rintro ⟨⟨k, x⟩, hfind, rfl⟩
    obtain ⟨rfl, hmem⟩ := text_of_find? hfind
    exact hmem
  · intro hmem
    cases hfind : es.find? fun entry : Value × Value => same entry.1 (.text name) with
    | none => exact absurd (same_text.mpr rfl) (List.find?_eq_none.mp hfind _ hmem)
    | some found =>
      obtain ⟨hkey, hfound⟩ := text_of_find? hfind
      exact ⟨found, rfl, congrArg Prod.snd (List.inj_on_of_nodup_map hn hfound hmem hkey)⟩

theorem field?_absent {key : Value} {name : String} (h : key ≠ .text name) (v : Value) :
    field? name [(key, v)] = none := by
  have hother : same key (.text name) = false := Bool.eq_false_iff.mpr fun hsame => h (same_text.mp hsame)
  simp [field?, get?, hother]

theorem field?_alone (name : String) (v : Value) : field? name [(.text name, v)] = some v := by
  simp [field?, get?, same_text]

theorem put_cons (key v : Value) (entry : Value × Value) (entries : Entries) : put key v (entry :: entries) =
    if same entry.1 key then (entry.1, v) :: entries else entry :: put key v entries := rfl

theorem put_of_not_mem {name : String} {entries : Entries} (h : (.text name : Value) ∉ entries.map (·.1)) :
    put (.text name) v entries = entries ++ [(.text name, v)] := by
  induction entries with
  | nil => rfl
  | cons entry entries ih =>
    rw [List.map_cons, List.mem_cons, not_or] at h
    have hother : ¬same entry.1 (.text name) = true := fun hsame => h.1 (same_text.mp hsame).symm
    rw [put_cons, if_neg hother, ih h.2, List.cons_append]

/-- The keys of a mapping are distinct texts. -/
structure Named (entries : Entries) : Prop where
  text : ∀ entry ∈ entries, ∃ name, entry.1 = .text name
  nodup : (entries.map (·.1)).Nodup

theorem Named.of_cons {entry : Value × Value} {entries : Entries} (h : Named (entry :: entries)) :
    (∃ name, entry.1 = .text name) ∧ entry.1 ∉ entries.map (·.1) ∧ Named entries := by
  obtain ⟨hkey, htext⟩ := List.forall_mem_cons.mp h.text
  obtain ⟨hfresh, hnodup⟩ := List.nodup_cons.mp h.nodup
  exact ⟨hkey, hfresh, htext, hnodup⟩

theorem field?_cons (key name : String) (v : Value) (entries : Entries) :
    field? name ((.text key, v) :: entries) = if key = name then some v else field? name entries := by
  unfold field? get?
  by_cases hkey : key = name
  · have hsame : same (.text name) (.text name) = true := same_text.mpr rfl
    simp [hkey, hsame]
  · have hother : same (.text key) (.text name) = false :=
      Bool.eq_false_iff.mpr fun h => hkey (Value.text.inj (same_text.mp h))
    simp [hkey, hother]

theorem field?_eq_none {name : String} {entries : Entries} (h : (.text name : Value) ∉ entries.map (·.1)) :
    field? name entries = none := by
  unfold field? get?
  rw [Option.map_eq_none_iff, List.find?_eq_none]
  intro entry hentry hsame
  exact h (same_text.mp hsame ▸ List.mem_map_of_mem hentry)

/-- The keys stay as they are, or the new one comes behind them. -/
theorem put_keys (key v : Value) (entries : Entries) : (put key v entries).map (·.1) = entries.map (·.1) ∨
    (put key v entries).map (·.1) = entries.map (·.1) ++ [key] ∧ ∀ entry ∈ entries, same entry.1 key = false := by
  induction entries with
  | nil => exact Or.inr ⟨rfl, by simp⟩
  | cons entry entries ih =>
    rw [put_cons]
    split
    · exact Or.inl rfl
    · rename_i hother
      rcases ih with ih | ⟨ih, hfresh⟩
      · exact Or.inl (congrArg (entry.1 :: ·) ih)
      · exact Or.inr ⟨congrArg (entry.1 :: ·) ih, List.forall_mem_cons.mpr ⟨by simpa using hother, hfresh⟩⟩

theorem Named.put {entries : Entries} (h : Named entries) (key : String) (v : Value) : Named (put (.text key) v entries) := by
  have hkeys : ∀ k ∈ (Value.put (.text key) v entries).map (·.1), ∃ name, k = .text name := by
    have hold : ∀ k ∈ entries.map (·.1), ∃ name, k = .text name := by simpa using h.text
    rcases put_keys (.text key) v entries with heq | ⟨heq, -⟩
    · rwa [heq]
    · rw [heq]
      intro k hk
      rcases List.mem_append.mp hk with hk | hk
      · exact hold k hk
      · exact ⟨key, List.mem_singleton.mp hk⟩
  refine ⟨by simpa using hkeys, ?_⟩
  rcases put_keys (.text key) v entries with heq | ⟨heq, hfresh⟩
  · rw [heq]
    exact h.nodup
  · rw [heq, List.nodup_append]
    refine ⟨h.nodup, by simp, ?_⟩
    rintro a ha b hb rfl
    obtain ⟨entry, hentry, hkey⟩ := List.mem_map.mp ha
    have hsame := same_text.mpr (hkey.trans (List.mem_singleton.mp hb))
    rw [hfresh entry hentry] at hsame
    cases hsame

theorem field?_put (key name : String) (v : Value) {entries : Entries} (h : Named entries) :
    field? name (put (.text key) v entries) = if key = name then some v else field? name entries := by
  induction entries with
  | nil => exact field?_cons key name v []
  | cons entry entries ih =>
    obtain ⟨⟨first, hfirst⟩, -, hrest⟩ := h.of_cons
    obtain ⟨k, w⟩ := entry
    obtain rfl : k = .text first := hfirst
    rw [put_cons]
    split
    · rename_i hsame
      obtain rfl := Value.text.inj (same_text.mp hsame)
      rw [field?_cons, field?_cons]
      split <;> rfl
    · rename_i hother
      have hne : first ≠ key := fun heq => hother (same_text.mpr (by rw [heq]))
      rw [field?_cons, field?_cons, ih hrest]
      by_cases hname : first = name
      · rw [if_pos hname, if_pos hname, if_neg fun heq => hne (hname.trans heq.symm)]
      · rw [if_neg hname, if_neg hname]

/-- Of entries put one after the other into a mapping, those count that are put, and then those that were there. -/
theorem field?_foldl_put (name : String) {pairs : Entries} : ∀ {entries : Entries}, Named pairs → Named entries →
    Named (pairs.foldl (fun entries pair => put pair.1 pair.2 entries) entries) ∧
      field? name (pairs.foldl (fun entries pair => put pair.1 pair.2 entries) entries) =
        (field? name pairs).or (field? name entries) := by
  induction pairs with
  | nil => exact fun _ hentries => ⟨hentries, rfl⟩
  | cons pair pairs ih =>
    intro entries hpairs hentries
    obtain ⟨⟨key, hkey⟩, hfresh, hrest⟩ := hpairs.of_cons
    obtain ⟨k, v⟩ := pair
    obtain rfl : k = .text key := hkey
    obtain ⟨hnamed, hfield⟩ := ih hrest (hentries.put key v)
    refine ⟨hnamed, ?_⟩
    rw [List.foldl_cons, hfield, field?_put key name v hentries, field?_cons]
    by_cases hname : key = name
    · subst hname
      rw [field?_eq_none hfresh, if_pos rfl, if_pos rfl]
      rfl
    · rw [if_neg hname, if_neg hname]

/-- Entries with distinct texts as keys are kept as they are. -/
theorem entriesOf_eq_self {entries : Entries} (htext : ∀ entry ∈ entries, ∃ name, entry.1 = .text name)
    (hn : (entries.map (·.1)).Nodup) : entriesOf entries = entries := by
  have onto : ∀ (entries before : Entries), (∀ entry ∈ entries, ∃ name, entry.1 = .text name) →
      ((before ++ entries).map (·.1)).Nodup →
      entries.foldl (fun entries pair => put pair.1 pair.2 entries) before = before ++ entries := by
    intro entries
    induction entries with
    | nil => simp
    | cons entry entries ih =>
      intro before htext hn
      obtain ⟨⟨name, hname⟩, hrest⟩ := List.forall_mem_cons.mp htext
      obtain ⟨key, v⟩ := entry
      obtain rfl : key = .text name := hname
      have hfresh : (.text name : Value) ∉ before.map (·.1) := by
        rw [List.map_append, List.nodup_append] at hn
        exact fun hmem => hn.2.2 _ hmem _ List.mem_cons_self rfl
      rw [List.foldl_cons, put_of_not_mem hfresh, ih _ hrest (by simpa using hn), List.append_assoc,
        List.singleton_append]
  exact onto entries [] htext hn

/-- The first key stays in its place, whatever is put behind it. -/
theorem entriesOf_cons (key v : Value) (pairs : List (Value × Value)) :
    ∃ w entries, entriesOf ((key, v) :: pairs) = (key, w) :: entries := by
  have onto : ∀ (pairs : List (Value × Value)) (v : Value) (entries : Entries), ∃ w more,
      pairs.foldl (fun entries pair => put pair.1 pair.2 entries) ((key, v) :: entries) = (key, w) :: more := by
    intro pairs
    induction pairs with
    | nil => exact fun v entries => ⟨v, entries, rfl⟩
    | cons pair pairs ih =>
      intro v entries
      rw [List.foldl_cons, put_cons]
      split
      · exact ih _ _
      · exact ih _ _
  exact onto pairs v []

/-! ### What is left of what was put -/

/-- No two keys of a mapping are the same. -/
def Distinct (entries : Entries) : Prop := entries.Pairwise fun p q => same p.1 q.1 = false

section
variable {key : Value} {entry : Value × Value} {pairs entries : Entries}

theorem mem_put_self (h : ∀ e ∈ entries, same e.1 key = true → e.1 = key) (v : Value) : (key, v) ∈ put key v entries := by
  induction entries with
  | nil => exact List.mem_singleton.mpr rfl
  | cons first rest ih =>
    obtain ⟨hfirst, hrest⟩ := List.forall_mem_cons.mp h
    rw [put_cons]
    split
    · rename_i hsame
      rw [hfirst hsame]
      exact List.mem_cons_self
    · exact List.mem_cons_of_mem _ (ih hrest)

theorem mem_put_of_ne (hentry : entry ∈ entries) (h : same entry.1 key = false) (v : Value) : entry ∈ put key v entries := by
  induction entries with
  | nil => simp at hentry
  | cons first rest ih =>
    rw [put_cons]
    rcases List.mem_cons.mp hentry with rfl | hentry
    · rw [if_neg (by simp [h])]
      exact List.mem_cons_self
    · split
      · exact List.mem_cons_of_mem _ hentry
      · exact List.mem_cons_of_mem _ (ih hentry)

theorem of_mem_put {v : Value} (hentry : entry ∈ put key v entries) :
    entry ∈ entries ∨ entry.2 = v ∧ (entry.1 = key ∨ ∃ e ∈ entries, entry.1 = e.1) := by
  induction entries with
  | nil =>
    obtain rfl := List.mem_singleton.mp hentry
    exact Or.inr ⟨rfl, Or.inl rfl⟩
  | cons first rest ih =>
    rw [put_cons] at hentry
    split at hentry
    · rcases List.mem_cons.mp hentry with rfl | hentry
      · exact Or.inr ⟨rfl, Or.inr ⟨first, List.mem_cons_self, rfl⟩⟩
      · exact Or.inl (List.mem_cons_of_mem _ hentry)
    · rcases List.mem_cons.mp hentry with rfl | hentry
      · exact Or.inl List.mem_cons_self
      · rcases ih hentry with hold | ⟨hv, hkey⟩
        · exact Or.inl (List.mem_cons_of_mem _ hold)
        · exact Or.inr ⟨hv, hkey.imp id fun ⟨e, he, heq⟩ => ⟨e, List.mem_cons_of_mem _ he, heq⟩⟩

/-- What is under a key stays there as long as nothing is put under the same key. -/
theorem mem_foldl_put_of_ne : ∀ {entries : Entries}, entry ∈ entries → (∀ p ∈ pairs, same entry.1 p.1 = false) →
    entry ∈ pairs.foldl (fun entries pair => put pair.1 pair.2 entries) entries := by
  induction pairs with
  | nil => exact fun hentry _ => hentry
  | cons p pairs ih =>
    intro entries hentry h
    obtain ⟨hp, hrest⟩ := List.forall_mem_cons.mp h
    exact ih (mem_put_of_ne hentry hp p.2) hrest

/-- All pairs of a mapping are there once they were put behind keys that are the same only if they are equal. -/
theorem mem_foldl_put (hdistinct : Distinct pairs) : ∀ {entries : Entries},
    (∀ e ∈ entries, ∀ p ∈ pairs, same e.1 p.1 = true → e.1 = p.1) →
      ∀ p ∈ pairs, p ∈ pairs.foldl (fun entries pair => put pair.1 pair.2 entries) entries := by
  induction pairs with
  | nil => simp
  | cons p pairs ih =>
    intro entries h
    obtain ⟨hfirst, hrest⟩ := List.pairwise_cons.mp hdistinct
    have hput : ∀ e ∈ put p.1 p.2 entries, ∀ q ∈ pairs, same e.1 q.1 = true → e.1 = q.1 := by
      intro e he q hq hsame
      have hold : ∀ e ∈ entries, same e.1 q.1 = true → e.1 = q.1 := fun e he => h e he q (List.mem_cons_of_mem _ hq)
      rcases of_mem_put he with he | ⟨-, hkey | ⟨e', he', hkey⟩⟩
      · exact hold e he hsame
      · rw [hkey, hfirst q hq] at hsame
        cases hsame
      · rw [hkey] at hsame ⊢
        exact hold e' he' hsame
    refine List.forall_mem_cons.mpr ⟨?_, ih hrest hput⟩
    have hself : p ∈ put p.1 p.2 entries := mem_put_self (fun e he => h e he p List.mem_cons_self) p.2
    rw [List.foldl_cons]
    exact mem_foldl_put_of_ne hself hfirst

theorem of_mem_foldl_put : ∀ {entries : Entries}, entry ∈ pairs.foldl (fun entries pair => put pair.1 pair.2 entries) entries →
    entry ∈ entries ∨ (∃ p ∈ pairs, entry.2 = p.2) ∧ ((∃ p ∈ pairs, entry.1 = p.1) ∨ ∃ e ∈ entries, entry.1 = e.1) := by
  induction pairs with
  | nil => exact fun hentry => Or.inl hentry
  | cons p pairs ih =>
    intro entries hentry
    have later : ∀ {P : Value × Value → Prop}, (∃ q ∈ pairs, P q) → ∃ q ∈ p :: pairs, P q := fun ⟨q, hq, h⟩ =>
      ⟨q, List.mem_cons_of_mem _ hq, h⟩
    rcases ih hentry with hput | ⟨hv, hkey | ⟨e, he, hkey⟩⟩
    · rcases of_mem_put hput with hold | ⟨hv, hkey⟩
      · exact Or.inl hold
      · exact Or.inr ⟨⟨p, List.mem_cons_self, hv⟩, hkey.imp (fun hkey => ⟨p, List.mem_cons_self, hkey⟩) id⟩
    · exact Or.inr ⟨later hv, Or.inl (later hkey)⟩
    · rcases of_mem_put he with hold | ⟨-, hp | ⟨e', he', hkey'⟩⟩
      · exact Or.inr ⟨later hv, Or.inr ⟨e, hold, hkey⟩⟩
      · exact Or.inr ⟨later hv, Or.inl ⟨p, List.mem_cons_self, hkey.trans hp⟩⟩
      · exact Or.inr ⟨later hv, Or.inr ⟨e', he', hkey.trans hkey'⟩⟩

end

end Value

end Curfew
