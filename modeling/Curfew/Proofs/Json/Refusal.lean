import Curfew.Json.Writer
import Curfew.Proofs.Faults
import Curfew.Proofs.Value.Entries

/-! Values that cannot be written. What has no form of its own is written as a text, but a key has to have one, so a value
is refused just if somewhere in it stands a mapping with a key that has none. -/

namespace Curfew
namespace Json

/-- Whether a value can be the key of an object: a text, null, a truth value or a number. -/
def canBeKey : Value → Bool
  | .text _ | .null | .bool _ | .int _ | .float _ => true
  | _ => false

/-- A mapping stands somewhere in a value: it is the value or stands in an item or under a key of it. -/
inductive Within (entries : Entries) : Value → Prop
  | here : Within entries (.map entries)
  | list {item : Value} {items : List Value} : item ∈ items → Within entries item → Within entries (.list items)
  | tuple {item : Value} {items : List Value} : item ∈ items → Within entries item → Within entries (.tuple items)
  | map {key v : Value} {outer : Entries} : (key, v) ∈ outer → Within entries v → Within entries (.map outer)

/-- Somewhere in a value stands a mapping with a key that no object can have. -/
def Refused (v : Value) : Prop := ∃ entries, Within entries v ∧ ∃ entry ∈ entries, canBeKey entry.1 = false

theorem Refused.list {item : Value} {items : List Value} (hitem : item ∈ items) (h : Refused item) : Refused (.list items) :=
  h.imp fun _ ⟨hwithin, hkey⟩ => ⟨.list hitem hwithin, hkey⟩

theorem Refused.tuple {item : Value} {items : List Value} (hitem : item ∈ items) (h : Refused item) : Refused (.tuple items) :=
  h.imp fun _ ⟨hwithin, hkey⟩ => ⟨.tuple hitem hwithin, hkey⟩

/-- A mapping is refused for a key of its own or for a value under one. -/
theorem refused_map {entries : Entries} :
    Refused (.map entries) ↔ ∃ entry ∈ entries, canBeKey entry.1 = false ∨ Refused entry.2 := by
  constructor
  · rintro ⟨inner, hwithin, entry, hentry, hkey⟩
    cases hwithin with
    | here => exact ⟨entry, hentry, Or.inl hkey⟩
    | map hmem hwithin => exact ⟨_, hmem, Or.inr ⟨inner, hwithin, entry, hentry, hkey⟩⟩
  · rintro ⟨entry, hentry, hkey | ⟨inner, hwithin, hinner⟩⟩
    · exact ⟨entries, .here, entry, hentry, hkey⟩
    · exact ⟨inner, .map hentry hwithin, hinner⟩

theorem not_refused_text (s : String) : ¬Refused (.text s) := by
  rintro ⟨_, hwithin, -⟩
  cases hwithin

/-! ### What is not written -/

theorem keyChars_eq_error {key : Value} : (∃ bad, keyChars key = .error bad) ↔ canBeKey key = false := by
  cases key with
  | bool b => cases b <;> simp [keyChars, canBeKey]
  | _ => simp [keyChars, canBeKey]

theorem itemChars_eq_error {items : List Value} :
    (∃ bad, itemChars items = .error bad) ↔ ∃ item ∈ items, ∃ bad, chars item = .error bad := by
  induction items with
  | nil => simp [itemChars]
  | cons item items ih =>
    simp only [itemChars, exists_bind_eq_error, List.mem_cons, exists_eq_or_imp, ← ih]
    simp [pure, Except.pure, exists_error_or]

theorem entryChars_eq_error {entries : List (Value × Value)} : (∃ bad, entryChars entries = .error bad) ↔
    ∃ entry ∈ entries, canBeKey entry.1 = false ∨ ∃ bad, chars entry.2 = .error bad := by
  induction entries with
  | nil => simp [entryChars]
  | cons entry entries ih =>
    obtain ⟨key, v⟩ := entry
    rw [List.exists_mem_cons_iff, ← ih, ← keyChars_eq_error]
    simp only [entryChars, exists_bind_eq_error]
    simp [pure, Except.pure, exists_error_or, or_assoc]

theorem chars_list_eq_error {items : List Value} :
    (∃ bad, chars (.list items) = .error bad) ↔ ∃ item ∈ items, ∃ bad, chars item = .error bad := by
  show (∃ bad, (itemChars items >>= fun css => .ok (Value.bracketed '[' ']' css)) = .error bad) ↔ _
  rw [exists_bind_eq_error, itemChars_eq_error]
  simp

theorem chars_tuple_eq_error {items : List Value} :
    (∃ bad, chars (.tuple items) = .error bad) ↔ ∃ item ∈ items, ∃ bad, chars item = .error bad :=
  chars_list_eq_error

theorem chars_map_eq_error {entries : Entries} : (∃ bad, chars (.map entries) = .error bad) ↔
    ∃ entry ∈ entries, canBeKey entry.1 = false ∨ ∃ bad, chars entry.2 = .error bad := by
  show (∃ bad, (entryChars entries >>= fun css => .ok (Value.bracketed '\x7b' '\x7d' css)) = .error bad) ↔ _
  rw [exists_bind_eq_error, entryChars_eq_error]
  simp

/-! ### Any value -/

theorem error_of_within {entries : Entries} (hbad : ∃ entry ∈ entries, canBeKey entry.1 = false) {v : Value}
    (hwithin : Within entries v) : ∃ bad, chars v = .error bad := by
  induction hwithin with
  | here => exact chars_map_eq_error.mpr (hbad.imp fun _ h => ⟨h.1, Or.inl h.2⟩)
  | list hitem _ ih => exact chars_list_eq_error.mpr ⟨_, hitem, ih⟩
  | tuple hitem _ ih => exact chars_tuple_eq_error.mpr ⟨_, hitem, ih⟩
  | map hentry _ ih => exact chars_map_eq_error.mpr ⟨_, hentry, Or.inr ih⟩

mutual

theorem refused_of_error : ∀ {v : Value}, (∃ bad, chars v = .error bad) → Refused v
  | .list items, h => by
    obtain ⟨item, hitem, hrefused⟩ := refused_of_items (chars_list_eq_error.mp h)
    exact .list hitem hrefused
  | .tuple items, h => by
    obtain ⟨item, hitem, hrefused⟩ := refused_of_items (chars_tuple_eq_error.mp h)
    exact .tuple hitem hrefused
  | .map entries, h => refused_map.mpr (refused_of_entries (chars_map_eq_error.mp h))
  | .bool b, h => by cases b <;> simp [chars] at h
  | .null, h | .int _, h | .float _, h | .text _, h | .bytes _, h | .time _, h | .set _, h => by simp [chars] at h

theorem refused_of_items : ∀ {items : List Value}, (∃ item ∈ items, ∃ bad, chars item = .error bad) →
    ∃ item ∈ items, Refused item
  | [], h => by simp at h
  | item :: items, h => by
    rcases (List.exists_mem_cons_iff _ _ _).mp h with h | h
    · exact ⟨item, List.mem_cons_self, refused_of_error h⟩
    · obtain ⟨found, hfound, hrefused⟩ := refused_of_items h
      exact ⟨found, List.mem_cons_of_mem _ hfound, hrefused⟩

theorem refused_of_entries : ∀ {entries : List (Value × Value)},
    (∃ entry ∈ entries, canBeKey entry.1 = false ∨ ∃ bad, chars entry.2 = .error bad) →
      ∃ entry ∈ entries, canBeKey entry.1 = false ∨ Refused entry.2
  | [], h => by simp at h
  | (key, v) :: entries, h => by
    rcases (List.exists_mem_cons_iff _ _ _).mp h with hkey | h
    · exact ⟨(key, v), List.mem_cons_self, hkey.imp id fun hv => refused_of_error hv⟩
    · obtain ⟨found, hfound, hrefused⟩ := refused_of_entries h
      exact ⟨found, List.mem_cons_of_mem _ hfound, hrefused⟩

end

/-- A value is not written just if somewhere in it stands a mapping with a key that no object can have. -/
theorem chars_eq_error_iff {v : Value} : (∃ bad, chars v = .error bad) ↔ Refused v :=
  ⟨refused_of_error, fun ⟨_, hwithin, hbad⟩ => error_of_within hbad hwithin⟩

end Json

end Curfew
