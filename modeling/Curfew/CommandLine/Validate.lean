import Curfew.CommandLine.Form

/-!
The command that checks a config file.
-/

namespace Curfew.CommandLine.Validate

/-- The options of the command. -/
inductive Key where
  | help
deriving DecidableEq

def form : Form Key where
  name := "validate"
  argument := some "CONFIG_FILE"
  switches := [{ key := .help, names := ["--help"] }]
  helpKey := .help

/-- The file that the words of a line name. -/
def fileOf (h : Host) (words : List String) : Except Detour String := do
  let g ← form.given words
  let file ← Form.argumentOf "CONFIG_FILE" g
  checkPath h "'CONFIG_FILE'" .file true file
  Form.noMore 1 g
  return file

/-- The number of nodes that a config file declares. -/
def run (file : String) : Acting Nat := do
  let h ← Acting.host
  let entries ← Acting.ofTold .file (Document.ofFile h (.ofText file) false)
  Acting.ofExcept (fun error => .tree (.config error))
    ((Outline.ofEntries entries).count Outline.rootLocation)

/-- The message for a fault that the command reports: only those of the config. -/
def message? : Stop → Option String
  | .file (.source (.config error)) => some error.message
  | .tree (.config error) => some (ConfigError.ofNode error).message
  | _ => none

def title : String := "Config Validation"

/-- The lines that are printed for an invalid config. -/
def invalidLines (message : String) : List String :=
  title :: Text.Markup.lines framedWidth s!"[red]INVALID[/red]\n{message}"

/-- Runs the command. -/
def outcome (file : String) : Session → Outcome × Session :=
  Acting.outcome (fun cause => (message? cause).map invalidLines) do
    let count ← run file
    return [title, s!"VALID {count} declared nodes"]

end Curfew.CommandLine.Validate
