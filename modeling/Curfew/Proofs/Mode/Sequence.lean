import Curfew.Proofs.Mode.Reading
import Curfew.Proofs.Text.Pieces

/-! Expressions one after the other. A comma between two expressions that are no octal digits makes one that does what
the first does and then, to the mode that comes of it, what the second does; and it is refused for what either is refused
for, the first before the second. -/

namespace Curfew

theorem not_isOctal_of_mem {cs : List Char} {c : Char} (hmem : c ∈ cs) (hc : ¬('0' ≤ c ∧ c ≤ '7')) : isOctal cs = false := by
  refine Bool.eq_false_iff.mpr fun h => hc ?_
  unfold isOctal at h
  simp only [Bool.and_eq_true, List.all_eq_true, decide_eq_true_eq] at h
  exact h.1.1 c hmem

/-- The clauses of a text with commas between them. -/
def Clause.allOfChars (cs : List Char) : Except ExpressionFault (List Clause) := (Text.splitAt ',' cs).mapM Clause.ofChars

theorem Clause.allOfChars_comma (cs ds : List Char) : allOfChars (cs ++ ',' :: ds) = (do
    let first ← allOfChars cs
    let second ← allOfChars ds
    return first ++ second) := by
  unfold allOfChars
  rw [Text.splitAt_append_separator, List.mapM_append]

namespace Mode

/-- A text without blanks at its ends that is no octal digits runs its clauses one after the other. -/
theorem compile_eq_foldl {text : String} (hends : Text.BareEnds Text.isBlank text.toList) (hoctal : isOctal text.toList = false)
    (mode : Mode) (isDirectory : Bool) : compile text mode isDirectory =
      ((Clause.allOfChars text.toList).map (List.foldl (Clause.run isDirectory) mode)).mapError fun fault =>
        { expression := text, fault } := by
  have htrim : Text.trim text.toList = text.toList := Text.trimWith_of_bareEnds hends
  rw [compile_eq]
  unfold read Expression.ofChars Clause.allOfChars
  rw [htrim, hoctal, if_neg Bool.false_ne_true, String.ofList_toList]
  cases (Text.splitAt ',' text.toList).mapM Clause.ofChars <;> rfl

/-- With a comma between them, two expressions act one after the other, and a refusal of either is one of the whole text. -/
theorem compile_comma {first second : String} (hfirst : Text.BareEnds Text.isBlank first.toList)
    (hsecond : Text.BareEnds Text.isBlank second.toList) (hfirstOctal : isOctal first.toList = false)
    (hsecondOctal : isOctal second.toList = false) (current : Int) (isDirectory : Bool) :
    ((∃ m, compile (first ++ "," ++ second) (ofInt current) isDirectory = .ok m) ↔
      (∃ m, compile first (ofInt current) isDirectory = .ok m) ∧ ∃ m, compile second (ofInt current) isDirectory = .ok m) ∧
    compile (first ++ "," ++ second) (ofInt current) isDirectory =
      (compile first (ofInt current) isDirectory >>= fun m => compile second m isDirectory).mapError fun refusal =>
        { refusal with expression := first ++ "," ++ second } := by
  have hchars : (first ++ "," ++ second).toList = first.toList ++ ',' :: second.toList := by simp
  have hends : Text.BareEnds Text.isBlank (first ++ "," ++ second).toList := by
    rw [hchars]
    exact hfirst.append hsecond (by decide)
  have hoctal : isOctal (first ++ "," ++ second).toList = false := by
    rw [hchars]
    exact not_isOctal_of_mem (c := ',') (by simp) (by decide)
  have hwhole := compile_eq_foldl hends hoctal (ofInt current) isDirectory
  rw [hchars, Clause.allOfChars_comma] at hwhole
  have hone := compile_eq_foldl hfirst hfirstOctal (ofInt current) isDirectory
  have htwo := fun m => compile_eq_foldl hsecond hsecondOctal m isDirectory
  rw [hwhole, hone, htwo]
  cases Clause.allOfChars first.toList with
  | error fault => exact ⟨⟨fun ⟨_, h⟩ => (by cases h), fun ⟨⟨_, h⟩, _⟩ => (by cases h)⟩, rfl⟩
  | ok clauses =>
    cases hread : Clause.allOfChars second.toList with
    | error fault =>
      refine ⟨⟨fun ⟨_, h⟩ => (by cases h), fun ⟨_, _, h⟩ => (by cases h)⟩, ?_⟩
      show _ = (compile second _ isDirectory).mapError _
      rw [htwo, hread]
      rfl
    | ok more =>
      refine ⟨⟨fun _ => ⟨⟨_, rfl⟩, _, rfl⟩, fun _ => ⟨_, rfl⟩⟩, ?_⟩
      show _ = (compile second _ isDirectory).mapError _
      rw [htwo, hread]
      show Except.ok ((clauses ++ more).foldl (Clause.run isDirectory) (ofInt current)) = _
      rw [List.foldl_append]
      rfl

/-- An execute bit that the first expression sets counts for a search of the second. -/
theorem compile_comma_search : Text.BareEnds Text.isBlank "u=x,g=u".toList ∧ Text.BareEnds Text.isBlank "a+X".toList ∧
    isOctal "u=x,g=u".toList = false ∧ isOctal "a+X".toList = false ∧
    ((∃ m, compile ("u=x,g=u" ++ "," ++ "a+X") (ofInt 0o644) false = .ok m) ↔
      (∃ m, compile "u=x,g=u" (ofInt 0o644) false = .ok m) ∧ ∃ m, compile "a+X" (ofInt 0o644) false = .ok m) ∧
    compile ("u=x,g=u" ++ "," ++ "a+X") (ofInt 0o644) false =
      (compile "u=x,g=u" (ofInt 0o644) false >>= fun m => compile "a+X" m false).mapError fun refusal =>
        { refusal with expression := "u=x,g=u" ++ "," ++ "a+X" } := by
  have hfirst : Text.BareEnds Text.isBlank "u=x,g=u".toList := ⟨by decide, by decide⟩
  have hsecond : Text.BareEnds Text.isBlank "a+X".toList := ⟨by decide, by decide⟩
  have hfirstOctal : isOctal "u=x,g=u".toList = false := by decide
  have hsecondOctal : isOctal "a+X".toList = false := by decide
  exact ⟨hfirst, hsecond, hfirstOctal, hsecondOctal, compile_comma hfirst hsecond hfirstOctal hsecondOctal 0o644 false⟩

end Mode

end Curfew
