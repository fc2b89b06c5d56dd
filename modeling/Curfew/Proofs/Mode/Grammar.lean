import Curfew.Proofs.Mode.OnePass
import Mathlib.Computability.RegularExpressions
import Mathlib.Data.Set.List

/-! The language of mode expressions. A text compiles if and only if it belongs to a regular language, once the blanks
around it are dropped, whatever it is compiled for; and a text that does not belong is refused in one way for all. -/

namespace Curfew

namespace Grammar

/-- One of some symbols. -/
def anyOf (symbols : List Char) : RegularExpression Char := symbols.foldr (fun c p => .char c + p) 0

/-- Once or more. -/
def repeated (p : RegularExpression Char) : RegularExpression Char := p * p.star

/-- So many times at most. -/
def atMost (p : RegularExpression Char) : Nat → RegularExpression Char
  | 0 => 1
  | n + 1 => 1 + p * atMost p n

def digit : RegularExpression Char := anyOf ['0', '1', '2', '3', '4', '5', '6', '7']

def octal : RegularExpression Char := digit * atMost digit 3

def action : RegularExpression Char :=
  anyOf ['=', '+', '-'] * (anyOf ['r', 'w', 'x', 'X', 's', 't', 'u', 'g', 'o']).star

def clause : RegularExpression Char := (anyOf ['u', 'g', 'o', 'a']).star * repeated action

def expression : RegularExpression Char := octal + clause * (.char ',' * clause).star

/-! ### Languages of the parts -/

variable {cs : List Char}

theorem mem_anyOf {symbols : List Char} : cs ∈ (anyOf symbols).matches' ↔ ∃ c ∈ symbols, cs = [c] := by
  induction symbols with
  | nil => simp [anyOf, RegularExpression.matches'_zero, Language.notMem_zero]
  | cons c symbols ih =>
    have hcons : anyOf (c :: symbols) = .char c + anyOf symbols := rfl
    have hchar : cs ∈ ({[c]} : Language Char) ↔ cs = [c] := Iff.rfl
    rw [hcons, RegularExpression.matches'_add, Language.mem_add, ih, RegularExpression.matches'_char, hchar]
    simp

theorem mem_star {p : RegularExpression Char} :
    cs ∈ p.star.matches' ↔ ∃ pieces : List (List Char), cs = pieces.flatten ∧ ∀ piece ∈ pieces, piece ∈ p.matches' := by
  rw [RegularExpression.matches'_star, Language.mem_kstar]

theorem mem_repeated {p : RegularExpression Char} : cs ∈ (repeated p).matches' ↔
    ∃ pieces : List (List Char), pieces ≠ [] ∧ cs = pieces.flatten ∧ ∀ piece ∈ pieces, piece ∈ p.matches' := by
  rw [repeated, RegularExpression.matches'_mul, Language.mem_mul]
  constructor
  · rintro ⟨first, hfirst, more, hmore, rfl⟩
    obtain ⟨rest, rfl, hrest⟩ := mem_star.mp hmore
    exact ⟨first :: rest, List.cons_ne_nil _ _, rfl, List.forall_mem_cons.mpr ⟨hfirst, hrest⟩⟩
  · rintro ⟨pieces, hne, rfl, hpieces⟩
    obtain ⟨first, rest, rfl⟩ := List.exists_cons_of_ne_nil hne
    obtain ⟨hfirst, hrest⟩ := List.forall_mem_cons.mp hpieces
    exact ⟨first, hfirst, rest.flatten, mem_star.mpr ⟨rest, rfl, hrest⟩, rfl⟩

theorem mem_atMost {symbols : List Char} : ∀ {n : Nat} {cs : List Char},
    cs ∈ (atMost (anyOf symbols) n).matches' ↔ cs.length ≤ n ∧ ∀ c ∈ cs, c ∈ symbols
  | 0, cs => by
    rw [atMost, RegularExpression.matches'_epsilon, Language.mem_one]
    constructor
    · rintro rfl
      simp
    · exact fun h => List.length_eq_zero_iff.mp (Nat.le_zero.mp h.1)
  | n + 1, cs => by
    rw [atMost, RegularExpression.matches'_add, Language.mem_add, RegularExpression.matches'_epsilon, Language.mem_one,
      RegularExpression.matches'_mul, Language.mem_mul]
    constructor
    · rintro (rfl | ⟨first, hfirst, rest, hrest, rfl⟩)
      · simp
      · obtain ⟨c, hc, rfl⟩ := mem_anyOf.mp hfirst
        obtain ⟨hlength, hrest⟩ := mem_atMost.mp hrest
        exact ⟨Nat.succ_le_succ hlength, List.forall_mem_cons.mpr ⟨hc, hrest⟩⟩
    · rintro ⟨hlength, hsymbols⟩
      cases cs with
      | nil => exact Or.inl rfl
      | cons c rest =>
        obtain ⟨hc, hrest⟩ := List.forall_mem_cons.mp hsymbols
        have hrest' := mem_atMost.mpr ⟨Nat.le_of_succ_le_succ hlength, hrest⟩
        exact Or.inr ⟨[c], mem_anyOf.mpr ⟨c, hc, rfl⟩, rest, hrest', rfl⟩

/-- Pieces that are each written for something are together written for a list. -/
theorem exists_map {α : Type} {write : α → List Char} {P : α → Prop} {L : Language Char}
    (h : ∀ piece, piece ∈ L ↔ ∃ a, P a ∧ piece = write a) {pieces : List (List Char)} :
    (∀ piece ∈ pieces, piece ∈ L) ↔ ∃ as : List α, (∀ a ∈ as, P a) ∧ pieces = as.map write := by
  induction pieces with
  | nil => exact ⟨fun _ => ⟨[], by simp, rfl⟩, fun _ => by simp⟩
  | cons piece pieces ih =>
    rw [List.forall_mem_cons, ih, h]
    constructor
    · rintro ⟨⟨a, ha, rfl⟩, as, has, rfl⟩
      exact ⟨a :: as, List.forall_mem_cons.mpr ⟨ha, has⟩, rfl⟩
    · rintro ⟨_ | ⟨a, as⟩, has, hpieces⟩
      · cases hpieces
      · obtain ⟨rfl, rfl⟩ := List.cons.inj hpieces
        obtain ⟨ha, has⟩ := List.forall_mem_cons.mp has
        exact ⟨⟨a, ha, rfl⟩, as, has, rfl⟩

/-- Symbols of a class one after the other. -/
theorem mem_star_anyOf {α : Type} {symbols : List Char} {symbol : α → Char} (h : ∀ c, c ∈ symbols ↔ ∃ a, symbol a = c) :
    cs ∈ (anyOf symbols).star.matches' ↔ ∃ as : List α, cs = as.map symbol := by
  have hone : ∀ piece, piece ∈ (anyOf symbols).matches' ↔ ∃ a, True ∧ piece = [symbol a] := fun piece => by
    rw [mem_anyOf]
    constructor
    · rintro ⟨c, hc, rfl⟩
      obtain ⟨a, rfl⟩ := (h c).mp hc
      exact ⟨a, trivial, rfl⟩
    · rintro ⟨a, -, rfl⟩
      exact ⟨symbol a, (h _).mpr ⟨a, rfl⟩, rfl⟩
  have hflat : ∀ as : List α, (as.map fun a => [symbol a]).flatten = as.map symbol := fun as => by
    rw [← List.flatMap_def, ← List.map_eq_flatMap]
  rw [mem_star]
  constructor
  · rintro ⟨pieces, rfl, hpieces⟩
    obtain ⟨as, -, rfl⟩ := (exists_map hone).mp hpieces
    exact ⟨as, hflat as⟩
  · rintro ⟨as, rfl⟩
    exact ⟨_, (hflat as).symm, (exists_map hone).mpr ⟨as, fun _ _ => trivial, rfl⟩⟩

/-! ### What is written for expressions -/

theorem mem_action : cs ∈ action.matches' ↔ ∃ a : Action, cs = a.chars := by
  have hoperator : ∀ c, c ∈ ['=', '+', '-'] ↔ ∃ operator : Operator, operator.symbol = c := fun c => by
    rw [Mode.mem_operators_iff, Option.isSome_iff_exists]
    exact exists_congr fun operator => Operator.ofChar?_eq_some.trans eq_comm
  have hpermission : ∀ c, c ∈ ['r', 'w', 'x', 'X', 's', 't', 'u', 'g', 'o'] ↔ ∃ p : Permission, p.symbol = c := fun c => by
    constructor
    · intro h
      simp only [List.mem_cons, List.not_mem_nil, or_false] at h
      rcases h with rfl | rfl | rfl | rfl | rfl | rfl | rfl | rfl | rfl
      · exact ⟨.read, rfl⟩
      · exact ⟨.write, rfl⟩
      · exact ⟨.execute, rfl⟩
      · exact ⟨.search, rfl⟩
      · exact ⟨.setId, rfl⟩
      · exact ⟨.sticky, rfl⟩
      · exact ⟨.copy .owner, rfl⟩
      · exact ⟨.copy .group, rfl⟩
      · exact ⟨.copy .others, rfl⟩
    · rintro ⟨p, rfl⟩
      rcases p with _ | _ | _ | _ | _ | _ | (_ | _ | _) <;> simp [Permission.symbol, Class.symbol]
  rw [action, RegularExpression.matches'_mul, Language.mem_mul]
  constructor
  · rintro ⟨first, hfirst, more, hmore, rfl⟩
    obtain ⟨c, hc, rfl⟩ := mem_anyOf.mp hfirst
    obtain ⟨operator, rfl⟩ := (hoperator c).mp hc
    obtain ⟨permissions, rfl⟩ := (mem_star_anyOf hpermission).mp hmore
    exact ⟨{ operator, permissions }, rfl⟩
  · rintro ⟨a, rfl⟩
    have hsymbol : [a.operator.symbol] ∈ (anyOf ['=', '+', '-']).matches' :=
      mem_anyOf.mpr ⟨_, (hoperator _).mpr ⟨a.operator, rfl⟩, rfl⟩
    exact ⟨_, hsymbol, _, (mem_star_anyOf hpermission).mpr ⟨a.permissions, rfl⟩, rfl⟩

theorem mem_clause : cs ∈ clause.matches' ↔ ∃ c : Clause, c.actions ≠ [] ∧ cs = c.chars := by
  have hwho : ∀ c, c ∈ ['u', 'g', 'o', 'a'] ↔ ∃ w : Who, w.symbol = c := fun c => by
    constructor
    · intro h
      simp only [List.mem_cons, List.not_mem_nil, or_false] at h
      rcases h with rfl | rfl | rfl | rfl
      · exact ⟨.only .owner, rfl⟩
      · exact ⟨.only .group, rfl⟩
      · exact ⟨.only .others, rfl⟩
      · exact ⟨.all, rfl⟩
    · rintro ⟨w, rfl⟩
      rcases w with (_ | _ | _) | _ <;> simp [Who.symbol, Class.symbol]
  have haction : ∀ piece, piece ∈ action.matches' ↔ ∃ a : Action, True ∧ piece = a.chars := fun piece => by
    simp only [mem_action, true_and]
  rw [clause, RegularExpression.matches'_mul, Language.mem_mul]
  constructor
  · rintro ⟨first, hfirst, more, hmore, rfl⟩
    obtain ⟨who, rfl⟩ := (mem_star_anyOf hwho).mp hfirst
    obtain ⟨pieces, hne, rfl, hpieces⟩ := mem_repeated.mp hmore
    obtain ⟨actions, -, rfl⟩ := (exists_map haction).mp hpieces
    refine ⟨{ who, actions }, by simpa using hne, ?_⟩
    rw [Clause.chars, List.flatMap_def]
  · rintro ⟨c, hne, rfl⟩
    refine ⟨_, (mem_star_anyOf hwho).mpr ⟨c.who, rfl⟩, _, mem_repeated.mpr ⟨c.actions.map Action.chars, ?_, ?_, ?_⟩, rfl⟩
    · simpa using hne
    · rw [List.flatMap_def]
    · exact (exists_map haction).mpr ⟨c.actions, fun _ _ => trivial, rfl⟩

theorem mem_digits_iff (c : Char) : c ∈ ['0', '1', '2', '3', '4', '5', '6', '7'] ↔ '0' ≤ c ∧ c ≤ '7' := by
  constructor
  · intro hc
    simp only [List.mem_cons, List.not_mem_nil, or_false] at hc
    rcases hc with rfl | rfl | rfl | rfl | rfl | rfl | rfl | rfl <;> exact ⟨by decide, by decide⟩
  · rintro ⟨hlow, hhigh⟩
    have hlow' : '0'.toNat ≤ c.toNat := hlow
    have hhigh' : c.toNat ≤ '7'.toNat := hhigh
    have hall : ∀ n ≤ '7'.toNat, '0'.toNat ≤ n → Char.ofNat n ∈ ['0', '1', '2', '3', '4', '5', '6', '7'] := by decide
    rw [← Char.ofNat_toNat c]
    exact hall c.toNat hhigh' hlow'

theorem mem_octal : cs ∈ octal.matches' ↔ isOctal cs = true := by
  have hoctal : isOctal cs = true ↔ (∀ c ∈ cs, '0' ≤ c ∧ c ≤ '7') ∧ 1 ≤ cs.length ∧ cs.length ≤ 4 := by
    unfold isOctal
    simp only [Bool.and_eq_true, List.all_eq_true, decide_eq_true_eq, and_assoc]
  rw [hoctal, octal, RegularExpression.matches'_mul, Language.mem_mul]
  simp only [← mem_digits_iff]
  constructor
  · rintro ⟨first, hfirst, rest, hrest, rfl⟩
    obtain ⟨c, hc, rfl⟩ := mem_anyOf.mp hfirst
    obtain ⟨hlength, hdigits⟩ := mem_atMost.mp hrest
    refine ⟨List.forall_mem_cons.mpr ⟨hc, hdigits⟩, ?_⟩
    simp only [List.singleton_append, List.length_cons]
    omega
  · rintro ⟨hdigits, hpos, hlength⟩
    obtain ⟨c, rest, rfl⟩ := List.exists_cons_of_length_pos hpos
    obtain ⟨hc, hrest⟩ := List.forall_mem_cons.mp hdigits
    rw [List.length_cons] at hlength
    exact ⟨[c], mem_anyOf.mpr ⟨c, hc, rfl⟩, rest, mem_atMost.mpr ⟨by omega, hrest⟩, rfl⟩

theorem joinWith_eq_flatten (separator : Char) (first : List Char) (rest : List (List Char)) :
    Text.joinWith [separator] (first :: rest) = first ++ (rest.map (separator :: ·)).flatten := by
  induction rest generalizing first with
  | nil => simp [Text.joinWith]
  | cons next rest ih =>
    rw [Text.joinWith, ih next, List.map_cons, List.flatten_cons, List.append_assoc, List.singleton_append,
      List.cons_append]

theorem mem_symbolic : cs ∈ (clause * (.char ',' * clause).star).matches' ↔ ∃ clauses : List Clause, clauses ≠ [] ∧
    (∀ c ∈ clauses, c.actions ≠ []) ∧ cs = Text.joinWith [','] (clauses.map Clause.chars) := by
  have hbehind : ∀ piece, piece ∈ (RegularExpression.char ',' * clause).matches' ↔
      ∃ c : Clause, c.actions ≠ [] ∧ piece = ',' :: c.chars := fun piece => by
    rw [RegularExpression.matches'_mul, Language.mem_mul, RegularExpression.matches'_char]
    constructor
    · rintro ⟨_, rfl, more, hmore, rfl⟩
      obtain ⟨c, hc, rfl⟩ := mem_clause.mp hmore
      exact ⟨c, hc, rfl⟩
    · rintro ⟨c, hc, rfl⟩
      exact ⟨[','], rfl, c.chars, mem_clause.mpr ⟨c, hc, rfl⟩, rfl⟩
  have hjoin : ∀ (c : Clause) (rest : List Clause), Text.joinWith [','] ((c :: rest).map Clause.chars) =
      c.chars ++ (rest.map fun c => ',' :: c.chars).flatten := fun c rest => by
    rw [List.map_cons, joinWith_eq_flatten, List.map_map]
    rfl
  rw [RegularExpression.matches'_mul, Language.mem_mul]
  constructor
  · rintro ⟨first, hfirst, more, hmore, rfl⟩
    obtain ⟨c, hc, rfl⟩ := mem_clause.mp hfirst
    obtain ⟨pieces, rfl, hpieces⟩ := mem_star.mp hmore
    obtain ⟨rest, hrest, rfl⟩ := (exists_map hbehind).mp hpieces
    exact ⟨c :: rest, List.cons_ne_nil _ _, List.forall_mem_cons.mpr ⟨hc, hrest⟩, (hjoin c rest).symm⟩
  · rintro ⟨clauses, hne, hclauses, rfl⟩
    obtain ⟨c, rest, rfl⟩ := List.exists_cons_of_ne_nil hne
    obtain ⟨hc, hrest⟩ := List.forall_mem_cons.mp hclauses
    refine ⟨c.chars, mem_clause.mpr ⟨c, hc, rfl⟩, _, mem_star.mpr ⟨_, rfl, ?_⟩, (hjoin c rest).symm⟩
    exact (exists_map hbehind).mpr ⟨rest, hrest, rfl⟩

/-- The words of the language are the texts that spell an expression. -/
theorem mem_expression : cs ∈ expression.matches' ↔ ∃ e : Expression, e.Spells cs := by
  rw [expression, RegularExpression.matches'_add, Language.mem_add, mem_octal, mem_symbolic]
  constructor
  · rintro (hoctal | ⟨clauses, hclauses⟩)
    · refine ⟨.octal (BitVec.ofNat 12 (octalValue cs)), hoctal, ?_⟩
      rw [BitVec.toNat_ofNat, Nat.mod_eq_of_lt (octalValue_lt hoctal)]
    · exact ⟨.symbolic clauses, hclauses⟩
  · rintro ⟨mode | clauses, he⟩
    · exact Or.inl he.1
    · exact Or.inr ⟨clauses, he⟩

end Grammar

namespace Mode

theorem read_eq_ok {text : String} {e : Expression} : read text = .ok e ↔ e.Spells (Text.trim text.toList) := by
  rw [read, mapError_eq_ok, Expression.ofChars_eq_ok]

theorem read_eq_error {text : String} {e : InvalidExpression} : read text = .error e ↔ ∃ fault,
    Expression.ofChars (Text.trim text.toList) = .error fault ∧
      e = { expression := String.ofList (Text.trim text.toList), fault } := by
  unfold read
  cases Expression.ofChars (Text.trim text.toList) with
  | ok expression => exact ⟨fun h => (nomatch h), fun ⟨_, h, _⟩ => (nomatch h)⟩
  | error fault =>
    rw [mapError_error, Except.error.injEq]
    exact ⟨fun h => ⟨fault, rfl, h.symm⟩, fun ⟨_, hfault, he⟩ => by cases hfault; exact he.symm⟩

/-- A text that belongs to the language without the blanks around it compiles for every mode and kind of entry; any other
text is refused for each of them with one fault, and with the whole text without those blanks. One pass over the text
comes to the same and never meets an unknown operator. -/
theorem compiles_iff_mem_expression (text : String) :
    ((Text.trim text.toList ∈ Grammar.expression.matches' ∧
        ∀ mode isDirectory, ∃ result, compile text mode isDirectory = .ok result) ∨
      (Text.trim text.toList ∉ Grammar.expression.matches' ∧ ∃ fault, ∀ mode isDirectory,
        compile text mode isDirectory = .error { expression := String.ofList (Text.trim text.toList), fault })) ∧
    ∀ mode isDirectory,
      compileBy text mode isDirectory = (compile text mode isDirectory).mapError (fun e => .fault e.fault) ∧
        ∀ symbol, compileBy text mode isDirectory ≠ .error (.unknownOperator symbol) := by
  refine ⟨?_, fun mode isDirectory => ⟨compileBy_eq text mode isDirectory, fun symbol h => ?_⟩⟩
  · rw [Grammar.mem_expression]
    simp only [← read_eq_ok]
    cases hread : read text with
    | ok e => exact Or.inl ⟨⟨e, rfl⟩, fun mode isDirectory => ⟨_, compile_eq_ok.mpr ⟨e, hread, rfl⟩⟩⟩
    | error refusal =>
      obtain ⟨fault, -, rfl⟩ := read_eq_error.mp hread
      exact Or.inr ⟨fun ⟨_, h⟩ => (nomatch h), fault, fun mode isDirectory => compile_eq_error.mpr hread⟩
  · rw [compileBy_eq] at h
    cases hc : compile text mode isDirectory with
    | ok result => rw [hc] at h; cases h
    | error e => rw [hc] at h; cases h

end Mode

end Curfew
