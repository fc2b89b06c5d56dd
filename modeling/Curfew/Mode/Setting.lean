import Curfew.Mode.Compile
import Curfew.Value.Display

/-!
Modes given as values: a number is the mode itself, anything else is read as an expression.
-/

namespace Curfew.Mode

/-- The mode that a value gives an entry. -/
def ofValue (value : Value) (mode : Mode) (isDirectory : Bool) : Except InvalidExpression Mode :=
  match value with
  | .int i => .ok (ofInt i)
  | .bool b => .ok (if b then 1 else 0)
  | v => compileChars v.plain mode isDirectory

end Curfew.Mode
