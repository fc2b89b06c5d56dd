import Curfew.Yaml.Block
import Curfew.Yaml.Plain

/-! Where a cursor can get to: however it moves, it stays in the text that it began in. -/

namespace Curfew.Yaml
variable {cs : List Char} {c : Cursor}

/-- What is in front of the cursor is the rest of the text. -/
def Cursor.Within (c : Cursor) (cs : List Char) : Prop := c.rest <:+ cs

theorem Cursor.rest_forward (c : Cursor) : c.forward.rest = c.rest.tail := by
  unfold Cursor.forward
  split
  · next hrest => rw [hrest, List.tail_nil]
  · next ch rest hrest =>
    rw [hrest, List.tail_cons]
    split
    · rfl
    · split <;> rfl

namespace Cursor.Within

theorem ofChars (cs : List Char) : (Cursor.ofChars cs).Within cs := List.suffix_refl cs

theorem forward (h : c.Within cs) : c.forward.Within cs := by
  rw [Cursor.Within, c.rest_forward]
  exact (List.tail_suffix c.rest).trans h

theorem advance (n : Nat) : ∀ {c : Cursor}, c.Within cs → (c.advance n).Within cs := by
  induction n with
  | zero => exact id
  | succ n ih => exact fun h => ih h.forward

theorem takeWhile (h : c.Within cs) (p : Char → Bool) : (c.takeWhile p).2.Within cs := h.advance _

theorem skip (h : c.Within cs) (p : Char → Bool) : (c.skip p).Within cs := h.takeWhile p

theorem skipSpaces (h : c.Within cs) : c.skipSpaces.Within cs := h.skip _

theorem skipComment (h : c.Within cs) : c.skipComment.Within cs := by
  unfold Cursor.skipComment
  split
  · exact h.skip _
  · exact h

theorem lineBreak (h : c.Within cs) : c.lineBreak.2.Within cs := by
  unfold Cursor.lineBreak
  split
  · exact h.advance 2
  · split
    · exact h.forward
    · split
      · exact h.forward
      · exact h
  · exact h

end Cursor.Within

/-! ### Plain scalars -/

end Curfew.Yaml
