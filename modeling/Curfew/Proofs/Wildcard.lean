import Curfew.Wildcard
import Mathlib.Data.List.Forall2

/-! What patterns match. Matching goes through the parts from the last to the first and keeps a row of answers, one for each
end of the text; what it comes to is said here part by part. -/

namespace Curfew
namespace Wildcard

/-- Parts match a text: a star any text, every other part one character. -/
inductive Matches : List Wildcard → List Char → Prop
  | nil : Matches [] []
  | star {parts : List Wildcard} {rest : List Char} (before : List Char) : Matches parts rest →
    Matches (.star :: parts) (before ++ rest)
  | one {part : Wildcard} {parts : List Wildcard} {c : Char} {cs : List Char} : part ≠ .star → accepts c part = true →
    Matches parts cs → Matches (part :: parts) (c :: cs)

variable {part : Wildcard} {parts : List Wildcard} {c : Char} {cs : List Char}

/-! ### One part more -/

theorem matches_nil : Matches [] cs ↔ cs = [] := by
  constructor
  · rintro ⟨⟩
    rfl
  · rintro rfl
    exact .nil

theorem matches_cons_nil : Matches (part :: parts) [] ↔ part = .star ∧ Matches parts [] := by
  constructor
  · intro h
    generalize htext : ([] : List Char) = text at h
    cases h with
    | star before hrest =>
      obtain ⟨rfl, rfl⟩ := List.append_eq_nil_iff.mp htext.symm
      exact ⟨rfl, hrest⟩
    | one => cases htext
  · rintro ⟨rfl, h⟩
    exact .star [] h

theorem matches_star_cons : Matches (.star :: parts) (c :: cs) ↔ Matches parts (c :: cs) ∨ Matches (.star :: parts) cs := by
  constructor
  · intro h
    generalize htext : c :: cs = text at h
    cases h with
    | star before hrest =>
      cases before with
      | nil =>
        obtain rfl : c :: cs = _ := htext
        exact Or.inl hrest
      | cons first before =>
        obtain ⟨-, rfl⟩ := List.cons.inj htext
        exact Or.inr (.star before hrest)
    | one hstar => exact absurd rfl hstar
  · rintro (h | h)
    · exact .star [] h
    · generalize htext : cs = text at h
      cases h with
      | star before hrest => exact .star (c :: before) hrest
      | one hstar => exact absurd rfl hstar

theorem matches_one_cons (hstar : part ≠ .star) :
    Matches (part :: parts) (c :: cs) ↔ accepts c part = true ∧ Matches parts cs := by
  constructor
  · intro h
    generalize htext : c :: cs = text at h
    cases h with
    | star => exact absurd rfl hstar
    | one _ haccepts hrest =>
      obtain ⟨rfl, rfl⟩ := List.cons.inj htext
      exact ⟨haccepts, hrest⟩
  · rintro ⟨haccepts, hrest⟩
    exact .one hstar haccepts hrest

/-! ### Rows -/

/-- A row answers for a text and each of its ends whether parts match it. -/
def Answers (parts : List Wildcard) (row : List Bool) (cs : List Char) : Prop :=
  List.Forall₂ (fun answer rest => answer = true ↔ Matches parts rest) row cs.tails

theorem Answers.headD {row : List Bool} (h : Answers parts row cs) : row.headD false = true ↔ Matches parts cs := by
  unfold Answers at h
  cases cs with
  | nil =>
    obtain ⟨answer, rest, hanswer, -, rfl⟩ := List.forall₂_cons_right_iff.mp h
    exact hanswer
  | cons c cs =>
    obtain ⟨answer, rest, hanswer, -, rfl⟩ := List.forall₂_cons_right_iff.mp h
    exact hanswer

theorem answers_withPart : ∀ {row : List Bool}, Answers parts row cs → Answers (part :: parts) (withPart part cs row) cs := by
  induction cs with
  | nil =>
    intro row h
    obtain ⟨here, rest, hhere, hrest, rfl⟩ := List.forall₂_cons_right_iff.mp h
    obtain rfl := List.forall₂_nil_right_iff.mp hrest
    refine .cons ?_ .nil
    rw [matches_cons_nil, Bool.and_eq_true, decide_eq_true_iff, hhere]
  | cons c cs ih =>
    intro row h
    obtain ⟨here, row, hhere, hrow, rfl⟩ := List.forall₂_cons_right_iff.mp h
    have hrest : Answers (part :: parts) (withPart part cs row) cs := ih hrow
    have hbehind : row.headD false = true ↔ Matches parts cs := Answers.headD hrow
    refine .cons ?_ hrest
    -- A star matches no character more or one more, every other part just one.
    by_cases hstar : part = .star
    · subst hstar
      rw [matches_star_cons, ← hhere, ← hrest.headD, Bool.or_eq_true]
    · rw [matches_one_cons hstar, ← hbehind]
      cases part with
      | star => exact absurd rfl hstar
      | any => exact Bool.and_eq_true _ _ ▸ Iff.rfl
      | literal d => exact Bool.and_eq_true _ _ ▸ Iff.rfl
      | oneOf isNegated ranges => exact Bool.and_eq_true _ _ ▸ Iff.rfl

theorem answers_nil : Answers [] (List.replicate cs.length false ++ [true]) cs := by
  induction cs with
  | nil => exact .cons (by simp [matches_nil]) .nil
  | cons c cs ih => exact .cons (by simp [matches_nil]) ih

theorem answers_matchRow (parts : List Wildcard) (cs : List Char) : Answers parts (matchRow cs parts) cs := by
  induction parts with
  | nil => exact answers_nil
  | cons part parts ih => exact answers_withPart ih

theorem matchChars_iff : matchChars parts cs = true ↔ Matches parts cs := (answers_matchRow parts cs).headD

/-! ### Names -/

/-- A pattern shows a name that it matches; a hidden one only if it is hidden itself. -/
def Shows (pattern name : String) : Prop := Matches (ofText pattern) name.toList ∧ (isHidden name = true → isHidden pattern = true)

instance (pattern name : String) : Decidable (Shows pattern name) :=
  decidable_of_iff (matchName pattern name = true ∧ (isHidden name = true → isHidden pattern = true))
    (and_congr_left fun _ => matchChars_iff)

end Wildcard

end Curfew
