import Curfew.Mode.Basic
import Curfew.Text.Quoted

/-!
Mode expressions.

An expression is either one to four octal digits or clauses with commas between them; a clause names
classes and then gives operators, each with the permissions it adds, removes or assigns.

    expression := octal | clause ("," clause)*
    octal      := [0-7]{1,4}
    clause     := who* (operator permission*)+
    who        := "u" | "g" | "o" | "a"
    operator   := "+" | "-" | "="
    permission := "r" | "w" | "x" | "X" | "s" | "t" | "u" | "g" | "o"
-/

namespace Curfew

inductive Who where
  | only (c : Class)
  | all
deriving DecidableEq

inductive Operator where
  | add
  | remove
  | assign
deriving DecidableEq

inductive Permission where
  | read
  | write
  | execute
  /-- Execute where it makes sense: on directories and where some class may execute already. -/
  | search
  | setId
  | sticky
  /-- What a class may do now. -/
  | copy (source : Class)
deriving DecidableEq

structure Action where
  operator : Operator
  permissions : List Permission
deriving DecidableEq

structure Clause where
  who : List Who
  actions : List Action
deriving DecidableEq

inductive Expression where
  | octal (mode : Mode)
  | symbolic (clauses : List Clause)
deriving DecidableEq

/-! ### Symbols -/

def Class.ofChar? : Char → Option Class
  | 'u' => some .owner
  | 'g' => some .group
  | 'o' => some .others
  | _ => none

def Who.ofChar? : Char → Option Who
  | 'a' => some .all
  | c => (Class.ofChar? c).map .only

def Operator.ofChar? : Char → Option Operator
  | '+' => some .add
  | '-' => some .remove
  | '=' => some .assign
  | _ => none

def Permission.ofChar? : Char → Option Permission
  | 'r' => some .read
  | 'w' => some .write
  | 'x' => some .execute
  | 'X' => some .search
  | 's' => some .setId
  | 't' => some .sticky
  | c => (Class.ofChar? c).map .copy

/-! ### Faults -/

/-- What is wrong with the text of an expression. -/
inductive ExpressionFault where
  | withoutOperator (clause : List Char)
  | unknownWho (symbol : Char)
  | unknownPermission (symbol : Char)
deriving DecidableEq

def ExpressionFault.message : ExpressionFault → String
  | .withoutOperator clause => s!"clause {Text.quote (String.ofList clause)} has no operator"
  | .unknownWho symbol => s!"invalid 'who' symbol {Text.quote symbol.toString}"
  | .unknownPermission symbol => s!"invalid permission symbol {Text.quote symbol.toString}"

/-- A refused expression, with the whole text that was to be read. -/
structure InvalidExpression where
  expression : String
  fault : ExpressionFault
deriving DecidableEq

def InvalidExpression.message (e : InvalidExpression) : String :=
  s!"invalid file mode {Text.quote e.expression}: {e.fault.message}"

/-! ### Reading -/

/-- The value of octal digits. -/
def octalValue (cs : List Char) : Nat := cs.foldl (fun n c => n * 8 + (c.toNat - '0'.toNat)) 0

/-- Whether a text is one to four octal digits. -/
def isOctal (cs : List Char) : Bool :=
  cs.all (fun c => '0' ≤ c && c ≤ '7') && 1 ≤ cs.length && cs.length ≤ 4

def Who.ofSymbol (symbol : Char) : Except ExpressionFault Who :=
  match Who.ofChar? symbol with
  | some w => .ok w
  | none => .error (.unknownWho symbol)

def Permission.ofSymbol (symbol : Char) : Except ExpressionFault Permission :=
  match Permission.ofChar? symbol with
  | some p => .ok p
  | none => .error (.unknownPermission symbol)

/-- The operators of a clause, each with the symbols up to the next, and the symbols before them. -/
def splitOperators (cs : List Char) : List Char × List (Operator × List Char) :=
  cs.foldr (fun c (symbols, actions) =>
    match Operator.ofChar? c with
    | some operator => ([], (operator, symbols) :: actions)
    | none => (c :: symbols, actions)) ([], [])

def Action.ofSymbols (operator : Operator) (symbols : List Char) :
    Except ExpressionFault Action := do
  return { operator, permissions := ← symbols.mapM Permission.ofSymbol }

def Clause.ofChars (cs : List Char) : Except ExpressionFault Clause :=
  match splitOperators cs with
  | (_, []) => .error (.withoutOperator cs)
  | (who, actions) => do
    let who ← who.mapM Who.ofSymbol
    let actions ← actions.mapM fun action => Action.ofSymbols action.1 action.2
    return { who, actions }

/-- The expression of a text without blanks around it. -/
def Expression.ofChars (cs : List Char) : Except ExpressionFault Expression :=
  if isOctal cs then .ok (.octal (BitVec.ofNat 12 (octalValue cs)))
  else do return .symbolic (← (Text.splitAt ',' cs).mapM Clause.ofChars)

end Curfew
