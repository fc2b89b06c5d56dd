import Curfew.Mode.Expression

/-!
The mode that an expression gives an entry.

Clauses act one after the other on the running mode, and so do the permissions of an action. Bits of
classes that a clause does not name stay as they are.
-/

namespace Curfew

/-- The bits that a clause may change: those of the classes it names, or all when it names none. -/
def Who.mask : Who → Mode
  | .only c => c.mask
  | .all => 0o7777

def whoMask (who : List Who) : Mode :=
  if who.isEmpty then 0o7777 else who.foldl (fun mask w => mask ||| w.mask) 0

/-- The bits of a plain permission in all classes. -/
def Permission.mask : Permission → Mode
  | .read => 0o444
  | .write => 0o222
  | .execute => 0o111
  | .setId => 0o6000
  | .sticky => 0o1000
  | .search => 0
  | .copy _ => 0

namespace Mode

/-- The mode with permissions added to, removed from or assigned to the acting classes. -/
def act (mode who : Mode) (operator : Operator) (permissions : Mode) : Mode :=
  match operator with
  | .assign => (mode &&& ~~~who) ||| (who &&& permissions)
  | .add => mode ||| (who &&& permissions)
  | .remove => mode &&& ~~~(who &&& permissions)

/-- What a class may do, spread over the acting classes. -/
def spread (mode who : Mode) (source : Class) : Mode :=
  let mask := source.mask &&& 0o777
  ((mode &&& mask) / (mask &&& anyExecute)) * (who &&& anyExecute)

/-- Whether an entry of this mode is to be executable by someone. -/
def isSearchable (mode : Mode) (isDirectory : Bool) : Bool :=
  isDirectory || mode &&& anyExecute != 0

end Mode

/-- An action under way: the running mode, the permissions gathered since they were last applied, and
whether an empty gathering is still to be assigned. -/
structure Gathering where
  mode : Mode
  permissions : Mode
  due : Bool
deriving DecidableEq

namespace Gathering

/-- The gathering after one more permission. A copy applies what was gathered, assigns what its class
may do then, and keeps it for later permissions only of an assignment. -/
def step (isDirectory : Bool) (who : Mode) (operator : Operator) (g : Gathering) :
    Permission → Gathering
  | .copy source =>
    let mode := if g.permissions = 0 then g.mode else g.mode.act who operator g.permissions
    let copied := mode.spread who source
    { mode := mode.act who .assign copied
      permissions := if operator = .assign then copied else 0
      due := false }
  | .search =>
    if g.mode.isSearchable isDirectory then
      { g with permissions := g.permissions ||| Mode.anyExecute }
    else g
  | p => { g with permissions := g.permissions ||| p.mask }

/-- The mode once the rest of the gathering is applied. -/
def finish (who : Mode) (operator : Operator) (g : Gathering) : Mode :=
  if g.permissions ≠ 0 || g.due then g.mode.act who operator g.permissions else g.mode

end Gathering

def Action.run (isDirectory : Bool) (who mode : Mode) (a : Action) : Mode :=
  let start : Gathering := { mode, permissions := 0, due := a.operator = .assign }
  (a.permissions.foldl (Gathering.step isDirectory who a.operator) start).finish who a.operator

def Clause.run (isDirectory : Bool) (mode : Mode) (c : Clause) : Mode :=
  c.actions.foldl (Action.run isDirectory (whoMask c.who)) mode

/-- The mode of an entry after an expression. -/
def Expression.run (isDirectory : Bool) (mode : Mode) : Expression → Mode
  | .octal result => result
  | .symbolic clauses => clauses.foldl (Clause.run isDirectory) mode

namespace Mode

/-- The mode that the text of an expression gives an entry; blanks around it do not count. -/
def compileChars (cs : List Char) (mode : Mode) (isDirectory : Bool) :
    Except InvalidExpression Mode :=
  let trimmed := Text.trim cs
  match Expression.ofChars trimmed with
  | .ok expression => .ok (expression.run isDirectory mode)
  | .error fault => .error { expression := String.ofList trimmed, fault }

def compile (expression : String) (mode : Mode) (isDirectory : Bool) :
    Except InvalidExpression Mode :=
  compileChars expression.toList mode isDirectory

end Mode

end Curfew
