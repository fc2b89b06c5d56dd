import Curfew.CommandLine.Apply
import Curfew.CommandLine.Compile
import Curfew.CommandLine.Validate

/-!
The whole command line: its commands, and what is printed when it is misused.
-/

namespace Curfew.CommandLine

/-- The options before the command. -/
inductive Key where
  | version
  | help
deriving DecidableEq

def switches : List (Switch Key) :=
  [{ key := .version, names := ["--version"] }, { key := .help, names := ["--help"] }]

def usage : String := s!"Usage: {programName} [OPTIONS] COMMAND [ARGS]..."

def version : String := "0.1.0"

/-! ### The command that shows the version -/

inductive VersionKey where
  | help
deriving DecidableEq

def versionForm : Form VersionKey where
  name := "version"
  argument := none
  switches := [{ key := .help, names := ["--help"] }]
  helpKey := .help

def versionPage : List String :=
  ["Version", s!"perm-watchdog v{version}",
   "Inheritable, deadline-driven chmod/chgrp for directory trees."]

/-! ### Running -/

/-- What is printed for a misuse of a command that is called in some form. -/
def misuseLines (form : String) (command : String) (fault : Misuse) : List String :=
  let shown := if fault.showsForm then
      [form, s!"Try '" ++ command ++ " --help' for help."] else []
  (shown ++ [s!"Error: {fault.message}"]).flatMap Text.Markup.untagged

/-- What comes of a line that is not run as a command. -/
def ofDetour (form : String) (command : String) : Detour → Outcome
  | .misuse fault =>
    { ending := .misused, out := [], err := misuseLines form command fault }
  | .help => .done [form]
  | .stop cause => .stopped cause

/-- Runs a command on what its words ask for. -/
def perform {κ ρ : Type} (form : Form κ) (asked : Except Detour ρ)
    (outcome : ρ → Session → Outcome × Session) (s : Session) : Outcome × Session :=
  match asked with
  | .ok request => outcome request s
  | .error detour => (ofDetour form.usage s!"{programName} {form.name}" detour, s)

/-- The names of the commands in their order. -/
def commandNames : List String :=
  [Apply.form.name, Compile.form.name, Validate.form.name, versionForm.name]

/-- Runs the command of a name on its words, if there is one of the name. -/
def command? (runId name : String) (words : List String) (s : Session) :
    Option (Outcome × Session) :=
  match name with
  | "apply" =>
    some (perform Apply.form (Apply.Request.ofWords s.host words) (Apply.outcome · runId) s)
  | "validate" =>
    some (perform Validate.form (Validate.fileOf s.host words) Validate.outcome s)
  | "mode" => some (perform Compile.form (Compile.Request.ofWords words) Compile.outcome s)
  | "version" =>
    let asked := do
      let g ← versionForm.given words
      Form.noMore 0 g
    some (perform versionForm asked (fun _ s => (.done versionPage, s)) s)
  | _ => none

/-- What the options before a command ask for: help, the version, or to go on with the words. -/
def leading (words : List String) : Except Outcome (List String) :=
  match Given.ofWords switches false words with
  | .error fault => .error (ofDetour usage programName (.misuse fault))
  | .ok g =>
    match g.uses with
    | [] => .ok g.words
    | use :: _ =>
      match use.switch.key with
      | .version => .error (.done [s!"{programName}, version {version}"])
      | .help => .error (.done [usage])

/-- Why words are not run although no option before them forbids it. A word in the place of the command
is read as an option after all if it looks like one. -/
def unknown (words : List String) : Outcome :=
  match words with
  | [] => ofDetour usage programName (.misuse .missingCommand)
  | name :: _ =>
    match leading words with
    | .error outcome => outcome
    | .ok _ =>
      let similar := Text.Similar.closest name commandNames
      ofDetour usage programName (.misuse (.unknownCommand name similar))

/-- Runs a command line on a host; what it writes to an audit file is marked with the run's name. -/
def run (runId : String) (words : List String) (h : Host) : Outcome × Session :=
  let s : Session := ⟨h, []⟩
  if words.isEmpty then ({ ending := .misused, out := [], err := [usage] }, s)
  else
    match leading words with
    | .error outcome => (outcome, s)
    | .ok words =>
      match words with
      | [] => (unknown words, s)
      | name :: rest => (command? runId name rest s).getD (unknown words, s)

end Curfew.CommandLine
