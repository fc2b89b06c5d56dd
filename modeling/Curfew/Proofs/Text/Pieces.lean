import Curfew.Text.Blank

/-! Texts in pieces. A text is split at a separator into the pieces that join to it again, and no piece has the separator
inside. Trimming takes nothing from a text whose ends are bare. -/

namespace Curfew.Text

theorem joinWith_cons_cons (c : Char) (first : List Char) (rest : List (List Char)) (separator : List Char) :
    joinWith separator ((c :: first) :: rest) = c :: joinWith separator (first :: rest) := by
  cases rest <;> rfl

theorem joinWith_splitAt (separator : Char) (cs : List Char) :
    joinWith [separator] (splitAt separator cs) = cs ∧ ∀ piece ∈ splitAt separator cs, separator ∉ piece := by
  induction cs with
  | nil => simp [splitAt, joinWith]
  | cons c cs ih =>
    rw [splitAt]
    cases hpieces : splitAt separator cs with
    | nil => exact absurd hpieces (splitAt_ne_nil separator cs)
    | cons first rest =>
      rw [hpieces] at ih
      obtain ⟨hjoin, hfree⟩ := ih
      split
      · rename_i hc
        refine ⟨?_, List.forall_mem_cons.mpr ⟨List.not_mem_nil, hfree⟩⟩
        show [] ++ [separator] ++ joinWith [separator] (first :: rest) = c :: cs
        rw [hjoin, hc]
        rfl
      · rename_i hc
        obtain ⟨hfirst, hrest⟩ := List.forall_mem_cons.mp hfree
        have hhead : separator ∉ c :: first := fun h => (List.mem_cons.mp h).elim (fun h => hc h.symm) hfirst
        refine ⟨?_, List.forall_mem_cons.mpr ⟨hhead, hrest⟩⟩
        rw [joinWith_cons_cons, hjoin]

/-- The pieces of two texts with a separator between them are those of the one and those of the other. -/
theorem splitAt_append_separator (separator : Char) (cs ds : List Char) :
    splitAt separator (cs ++ separator :: ds) = splitAt separator cs ++ splitAt separator ds := by
  induction cs with
  | nil => simp only [List.nil_append, splitAt, ↓reduceIte, List.singleton_append]
  | cons c cs ih =>
    rw [List.cons_append, splitAt, splitAt, ih]
    by_cases hc : c = separator
    · rw [if_pos hc, if_pos hc, List.cons_append]
    · rw [if_neg hc, if_neg hc]
      cases hpieces : splitAt separator cs with
      | nil => exact absurd hpieces (splitAt_ne_nil separator cs)
      | cons first rest => rfl

theorem splitAt_eq_singleton {separator : Char} {piece : List Char} (h : separator ∉ piece) :
    splitAt separator piece = [piece] := by
  induction piece with
  | nil => rfl
  | cons c piece ih =>
    have hc : c ≠ separator := fun heq => h (heq ▸ List.mem_cons_self)
    have hpiece : separator ∉ piece := fun hmem => h (List.mem_cons_of_mem _ hmem)
    rw [splitAt, if_neg hc, ih hpiece]

theorem splitAt_append {separator : Char} {piece : List Char} (h : separator ∉ piece) (cs : List Char) :
    splitAt separator (piece ++ separator :: cs) = piece :: splitAt separator cs := by
  rw [splitAt_append_separator, splitAt_eq_singleton h, List.singleton_append]

theorem splitAt_joinWith {separator : Char} {pieces : List (List Char)} (hne : pieces ≠ [])
    (h : ∀ piece ∈ pieces, separator ∉ piece) : splitAt separator (joinWith [separator] pieces) = pieces := by
  induction pieces with
  | nil => exact absurd rfl hne
  | cons first rest ih =>
    obtain ⟨hfirst, hrest⟩ := List.forall_mem_cons.mp h
    cases rest with
    | nil => exact splitAt_eq_singleton hfirst
    | cons next rest =>
      have hjoin : joinWith [separator] (first :: next :: rest) = first ++ separator :: joinWith [separator] (next :: rest) := by
        rw [joinWith, List.append_assoc, List.singleton_append]
      rw [hjoin, splitAt_append hfirst, ih (List.cons_ne_nil _ _) hrest]

/-! ### Ends -/

/-- No character of a class stands at either end of a text. -/
def BareEnds (blank : Char → Bool) (cs : List Char) : Prop :=
  cs.head?.any blank = false ∧ cs.getLast?.any blank = false

theorem dropWhile_eq_self {blank : Char → Bool} {cs : List Char} (h : cs.head?.any blank = false) :
    cs.dropWhile blank = cs := by
  cases cs with
  | nil => rfl
  | cons c cs => rw [List.dropWhile_cons_of_neg (by simpa using h)]

theorem trimWith_of_bareEnds {blank : Char → Bool} {cs : List Char} (h : BareEnds blank cs) : trimWith blank cs = cs := by
  have hlast : cs.reverse.head?.any blank = false := by
    rw [List.head?_reverse]
    exact h.2
  unfold trimWith
  rw [dropWhile_eq_self h.1, dropWhile_eq_self hlast, List.reverse_reverse]

theorem bareEnds_of_forall {blank : Char → Bool} {cs : List Char} (h : ∀ c ∈ cs, blank c = false) : BareEnds blank cs := by
  constructor
  · cases hfirst : cs.head? with
    | none => rfl
    | some c => exact h c (List.mem_of_head? hfirst)
  · cases hlast : cs.getLast? with
    | none => rfl
    | some c => exact h c (List.mem_of_getLast? hlast)

/-- Two texts that are bare at their outer ends are so together, with something bare between them. -/
theorem BareEnds.append {blank : Char → Bool} {cs ds : List Char} (hcs : BareEnds blank cs) (hds : BareEnds blank ds)
    {c : Char} (hc : blank c = false) : BareEnds blank (cs ++ c :: ds) := by
  constructor
  · cases cs with
    | nil => exact hc
    | cons first rest => exact hcs.1
  · rw [List.getLast?_append, List.getLast?_cons]
    cases hlast : ds.getLast? with
    | none => exact hc
    | some last =>
      have hds := hds.2
      rw [hlast] at hds
      exact hds

end Curfew.Text
