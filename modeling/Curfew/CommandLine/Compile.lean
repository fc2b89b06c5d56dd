import Curfew.CommandLine.Form

/-!
The command that compiles a mode expression.
-/

namespace Curfew.CommandLine.Compile

/-- The options of the command. -/
inductive Key where
  | current
  | directory
  | help
deriving DecidableEq

def form : Form Key where
  name := "mode"
  argument := some "EXPRESSION"
  switches :=
    [{ key := .current, names := ["--current"], takesValue := true },
     { key := .directory, names := ["--directory", "-d"] },
     { key := .help, names := ["--help"] }]
  helpKey := .help

/-- What is asked for. -/
structure Request where
  expression : String
  current : Mode := 0o644
  isDirectory : Bool := false

namespace Request

/-- The request with one option taken into account. -/
def withUse (r : Request) (use : Use Key) : Except Detour Request :=
  match use.switch.key with
  | .current =>
    let value := use.value.getD ""
    match Text.integer? 8 value.toList with
    | some current => return { r with current := .ofInt current }
    | none =>
      throw (.misuse (.badValue use.switch.shownNames s!"{Text.quote value} is not an octal mode"))
  | .directory => return { r with isDirectory := true }
  | .help => return r

/-- What the words of a line ask for. -/
def ofWords (words : List String) : Except Detour Request := do
  let g ← form.given words
  let r ← g.settled.foldlM withUse { expression := "" }
  let expression ← Form.argumentOf "EXPRESSION" g
  Form.noMore 1 g
  return { r with expression }

end Request

/-- Runs the command. -/
def outcome (r : Request) : Session → Outcome × Session :=
  let reported : Stop → Option (List String)
    | .expression error => some (errorLines error.message)
    | _ => none
  Acting.outcome reported do
    let mode ← Acting.ofExcept .expression (Mode.compile r.expression r.current r.isDirectory)
    return [mode.text]

end Curfew.CommandLine.Compile
