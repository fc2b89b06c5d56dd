import Curfew.Proofs.Mode.Reading
import Curfew.Proofs.Mode.Spelling

/-! Compiling in one pass. Each symbol acts on the running mode as soon as it is read, and an operator is known by its
symbol alone. This comes to what reading the whole text first comes to, so what is refused does not depend on the mode,
and no symbol that a clause is split at is unknown when permissions are applied by it. -/

namespace Curfew.Mode

/-- What stops a pass over a text. -/
inductive Stop where
  | fault (fault : ExpressionFault)
  | unknownOperator (symbol : Char)

/-- The symbols of a clause: those in front, and each symbol of an operator with those up to the next. -/
def splitSymbols (cs : List Char) : List Char × List (Char × List Char) :=
  cs.foldr (fun c (symbols, actions) =>
    if c ∈ ['=', '+', '-'] then ([], (c, symbols) :: actions) else (c :: symbols, actions)) ([], [])

/-- Applies permissions by the operator that a symbol stands for. -/
def actBy (symbol : Char) (mode who permissions : Mode) : Except Stop Mode :=
  match Operator.ofChar? symbol with
  | some operator => .ok (mode.act who operator permissions)
  | none => .error (.unknownOperator symbol)

/-- The bits of the classes that symbols name, or all where there is no symbol. -/
def whoMaskBy (symbols : List Char) : Except Stop Mode :=
  (if symbols.isEmpty then ['a'] else symbols).foldlM
    (fun mask symbol => ((Who.ofSymbol symbol).mapError .fault).map fun w => mask ||| w.mask) 0

/-- The gathering after the permission of one more symbol. -/
def gatherBy (isDirectory : Bool) (who : Mode) (operator : Char) (g : Gathering) (symbol : Char) : Except Stop Gathering := do
  match ← (Permission.ofSymbol symbol).mapError .fault with
  | .copy source =>
    let mode ← if g.permissions = 0 then pure g.mode else actBy operator g.mode who g.permissions
    let copied := mode.spread who source
    return { mode := ← actBy '=' mode who copied, permissions := if operator = '=' then copied else 0, due := false }
  | .search =>
    if g.mode.isSearchable isDirectory then return { g with permissions := g.permissions ||| anyExecute } else return g
  | p => return { g with permissions := g.permissions ||| p.mask }

def actionBy (isDirectory : Bool) (who mode : Mode) (action : Char × List Char) : Except Stop Mode := do
  let g ← action.2.foldlM (gatherBy isDirectory who action.1) { mode, permissions := 0, due := action.1 = '=' }
  if g.permissions ≠ 0 || g.due then actBy action.1 g.mode who g.permissions else return g.mode

def clauseBy (isDirectory : Bool) (mode : Mode) (cs : List Char) : Except Stop Mode := do
  let symbols := splitSymbols cs
  if symbols.2.isEmpty then throw (.fault (.withoutOperator cs))
  let who ← whoMaskBy symbols.1
  symbols.2.foldlM (actionBy isDirectory who) mode

/-- The mode that a text gives an entry, in one pass over it. -/
def compileBy (text : String) (mode : Mode) (isDirectory : Bool) : Except Stop Mode :=
  let cs := Text.trim text.toList
  if isOctal cs then .ok (BitVec.ofNat 12 (octalValue cs))
  else (Text.splitAt ',' cs).foldlM (clauseBy isDirectory) mode

/-! ### Symbols of operators -/

theorem mem_operators_iff (c : Char) : c ∈ ['=', '+', '-'] ↔ (Operator.ofChar? c).isSome := by
  rw [Option.isSome_iff_exists]
  constructor
  · intro h
    simp only [List.mem_cons, List.not_mem_nil, or_false] at h
    rcases h with rfl | rfl | rfl
    · exact ⟨.assign, rfl⟩
    · exact ⟨.add, rfl⟩
    · exact ⟨.remove, rfl⟩
  · rintro ⟨operator, h⟩
    rw [Operator.ofChar?_eq_some.mp h]
    cases operator <;> simp [Operator.symbol]

/-- A clause is split at symbols of operators. -/
theorem splitSymbols_eq (cs : List Char) : splitSymbols cs =
    ((splitOperators cs).1, (splitOperators cs).2.map fun action => (action.1.symbol, action.2)) := by
  induction cs with
  | nil => rfl
  | cons c cs ih =>
    have hcons : splitSymbols (c :: cs) = if c ∈ ['=', '+', '-'] then
        ([], (c, (splitSymbols cs).1) :: (splitSymbols cs).2) else (c :: (splitSymbols cs).1, (splitSymbols cs).2) := rfl
    have hsplit := mem_operators_iff c
    rw [hcons, ih]
    cases hc : Operator.ofChar? c with
    | none =>
      rw [hc] at hsplit
      rw [splitOperators_plain hc, if_neg fun h => nomatch hsplit.mp h]
    | some operator =>
      rw [hc] at hsplit
      rw [splitOperators_operator hc, if_pos (hsplit.mpr rfl), List.map_cons, ← Operator.ofChar?_eq_some.mp hc]

theorem actBy_symbol (operator : Operator) (mode who permissions : Mode) :
    actBy operator.symbol mode who permissions = .ok (mode.act who operator permissions) := by
  cases operator <;> rfl

theorem symbol_eq_assign (operator : Operator) : operator.symbol = '=' ↔ operator = .assign := by
  cases operator <;> decide

/-! ### One pass -/

section
variable (isDirectory : Bool) (who mode : Mode) (operator : Operator)

theorem whoMaskBy_eq (symbols : List Char) :
    whoMaskBy symbols = ((symbols.mapM Who.ofSymbol).mapError .fault).map whoMask := by
  unfold whoMaskBy
  rw [foldlM_map, mapM_mapError]
  cases symbols with
  | nil => rfl
  | cons symbol symbols =>
    rw [List.isEmpty_cons, if_neg Bool.false_ne_true]
    cases hread : (symbol :: symbols).mapM Who.ofSymbol with
    | error fault => rfl
    | ok ws =>
      have hne : ws.isEmpty = false := by
        have hspelled := (mapM_eq_ok_map fun _ _ => Who.ofSymbol_eq_ok).mp hread
        cases ws with
        | nil => cases hspelled
        | cons w ws => rfl
      simp only [mapError_ok, Except.map, whoMask, hne, Bool.false_eq_true, ↓reduceIte]

theorem gatherBy_eq (g : Gathering) (symbol : Char) : gatherBy isDirectory who operator.symbol g symbol =
    ((Permission.ofSymbol symbol).mapError .fault).map (g.step isDirectory who operator) := by
  unfold gatherBy
  cases Permission.ofSymbol symbol with
  | error fault => rfl
  | ok p =>
    rw [mapError_ok, ok_bind]
    cases p with
    | copy source =>
      have hcopied := actBy_symbol .assign
      simp only [Operator.symbol] at hcopied
      by_cases hg : g.permissions = 0
      · simp only [if_pos hg, pure_bind, hcopied, ok_bind, symbol_eq_assign]
        simp only [Except.map, Gathering.step, if_pos hg]
        rfl
      · simp only [if_neg hg, actBy_symbol, hcopied, ok_bind, symbol_eq_assign]
        simp only [Except.map, Gathering.step, if_neg hg]
        rfl
    | search =>
      simp only [Except.map, Gathering.step]
      split <;> rfl
    | _ => rfl

theorem actionBy_eq (symbols : List Char) : actionBy isDirectory who mode (operator.symbol, symbols) =
    ((Action.ofSymbols operator symbols).mapError .fault).map (Action.run isDirectory who mode) := by
  have hgather : gatherBy isDirectory who operator.symbol = fun g symbol =>
      ((Permission.ofSymbol symbol).mapError .fault).map (g.step isDirectory who operator) :=
    funext fun g => funext fun symbol => gatherBy_eq isDirectory who operator g symbol
  unfold actionBy Action.ofSymbols
  rw [hgather, foldlM_map, mapM_mapError]
  cases symbols.mapM Permission.ofSymbol with
  | error fault => rfl
  | ok ps =>
    simp only [mapError_ok, Except.map, ok_bind, symbol_eq_assign, actBy_symbol]
    unfold Action.run Gathering.finish
    simp only [pure, Except.pure, mapError_ok]
    split <;> rfl

theorem clauseBy_eq (cs : List Char) :
    clauseBy isDirectory mode cs = ((Clause.ofChars cs).mapError .fault).map (Clause.run isDirectory mode) := by
  unfold clauseBy Clause.ofChars
  simp only [splitSymbols_eq]
  rcases splitOperators cs with ⟨symbols, _ | ⟨action, actions⟩⟩
  · rfl
  · have hactions : ∀ (who mode : Mode) (pieces : List (Operator × List Char)),
        (pieces.map fun piece => (piece.1.symbol, piece.2)).foldlM (actionBy isDirectory who) mode =
          ((pieces.mapM fun piece => Action.ofSymbols piece.1 piece.2).mapError .fault).map fun as =>
            as.foldl (Action.run isDirectory who) mode := by
      intro who mode pieces
      rw [List.foldlM_map, ← mapM_mapError, ← foldlM_map]
      simp only [actionBy_eq]
    simp only [List.map_cons, List.isEmpty_cons, Bool.false_eq_true, ↓reduceIte, whoMaskBy_eq]
    cases symbols.mapM Who.ofSymbol with
    | error fault => rfl
    | ok ws =>
      have hrest := hactions (whoMask ws) mode (action :: actions)
      simp only [mapError_ok, Except.map, ok_bind, List.map_cons] at hrest ⊢
      rw [hrest]
      cases (action :: actions).mapM fun piece => Action.ofSymbols piece.1 piece.2 <;> rfl

end

/-- One pass over a text comes to what reading the text first comes to. -/
theorem compileBy_eq (text : String) (mode : Mode) (isDirectory : Bool) :
    compileBy text mode isDirectory = (compile text mode isDirectory).mapError fun e => .fault e.fault := by
  have hclause : clauseBy isDirectory = fun mode cs =>
      ((Clause.ofChars cs).mapError .fault).map (Clause.run isDirectory mode) :=
    funext fun mode => funext fun cs => clauseBy_eq isDirectory mode cs
  rw [compile_eq]
  unfold compileBy read Expression.ofChars
  rw [hclause]
  simp only [foldlM_map, mapM_mapError]
  split
  · rfl
  · cases (Text.splitAt ',' (Text.trim text.toList)).mapM Clause.ofChars <;> rfl

end Curfew.Mode
