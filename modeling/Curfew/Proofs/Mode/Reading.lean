import Curfew.Mode.Compile
import Curfew.Proofs.Host.Reach

/-! Compiling a text is reading an expression and running it. Whether a text can be read does not depend on the entry that
it is for, so one text is refused for all entries or for none. -/

namespace Curfew.Mode

/-- The expression of a text; blanks around it do not count. -/
def read (text : String) : Except InvalidExpression Expression :=
  (Expression.ofChars (Text.trim text.toList)).mapError fun fault =>
    { expression := String.ofList (Text.trim text.toList), fault }

variable {text : String} {m m' : Mode} {isDirectory : Bool}

theorem compile_eq : compile text m isDirectory = (read text).map (Expression.run isDirectory m) := by
  unfold compile compileChars read
  cases he : Expression.ofChars (Text.trim text.toList) with
  | error fault =>
    simp only [he]
    rfl
  | ok e =>
    simp only [he]
    rfl

theorem compile_eq_ok : compile text m isDirectory = .ok m' ↔ ∃ e, read text = .ok e ∧ m' = e.run isDirectory m := by
  rw [compile_eq]
  cases read text with
  | error fault => exact ⟨fun h => (nomatch h), fun ⟨_, h, _⟩ => (nomatch h)⟩
  | ok e =>
    constructor
    · intro h
      cases h
      exact ⟨e, rfl, rfl⟩
    · rintro ⟨_, h, rfl⟩
      cases h
      rfl

theorem compile_eq_error {e : InvalidExpression} : compile text m isDirectory = .error e ↔ read text = .error e := by
  rw [compile_eq]
  cases read text with
  | error fault => exact ⟨fun h => (by cases h; rfl), fun h => (by cases h; rfl)⟩
  | ok e => exact ⟨fun h => (nomatch h), fun h => (nomatch h)⟩

end Curfew.Mode
