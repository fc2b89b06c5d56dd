import Curfew.CommandLine.Given
import Curfew.CommandLine.Outcome

/-!
The form of a command: its options, its argument, and how the words of a line are checked against it.

Options are checked in the order in which they were given, then the argument, and last that no words are
left over. Asking for help comes before all checks.
-/

namespace Curfew.CommandLine

/-- Why a line is not run as a command. -/
inductive Detour where
  | misuse (fault : Misuse)
  | help
  | stop (cause : Stop)

/-- The options and the argument of a command. -/
structure Form (κ : Type) where
  name : String
  argument : Option String
  switches : List (Switch κ)
  /-- The option that asks for help. -/
  helpKey : κ

/-- What all commands are called together. -/
def programName : String := "cli"

namespace Form

variable {κ : Type}

/-- How the command is called. -/
def usage (f : Form κ) : String :=
  s!"Usage: {programName} {f.name} [OPTIONS]" ++ ((f.argument.map (" " ++ ·)).getD "")

/-- What a line gives to the command, help not being asked for. -/
def given [DecidableEq κ] (f : Form κ) (words : List String) : Except Detour (Given κ) := do
  let g ← (Given.ofWords f.switches true words).mapError .misuse
  if g.has f.helpKey then throw .help
  return g

/-- The word for the argument. -/
def argumentOf (name : String) (g : Given κ) : Except Detour String :=
  match g.words with
  | word :: _ => .ok word
  | [] => .error (.misuse (.missingArgument name))

/-- Refuses words that are left over behind so many. -/
def noMore (count : Nat) (g : Given κ) : Except Detour Unit :=
  match g.words.drop count with
  | [] => .ok ()
  | words => .error (.misuse (.extraArguments words))

end Form

/-! ### Values -/

/-- What a path is to lead to. -/
inductive Wanted where
  | file
  | directory
deriving DecidableEq

def Wanted.noun : Wanted → String
  | .file => "File"
  | .directory => "Directory"

/-- Refuses a path for a place that leads to what is not wanted, or nowhere if it must lead to
something. -/
def checkPath (h : Host) (place : String) (wanted : Wanted) (mustExist : Bool) (text : String) :
    Except Detour Unit :=
  let refuse (reason : String) : Except Detour Unit :=
    .error (.misuse (.badValue place s!"{wanted.noun} {Text.quote text} {reason}"))
  match h.entryAt? text, wanted with
  | .error fault, _ => .error (.stop (.argument fault))
  | .ok none, _ => if mustExist then refuse "does not exist." else .ok ()
  | .ok (some (.file _ _)), .directory => refuse "is a file."
  | .ok (some (.directory _ _)), .file => refuse "is a directory."
  | .ok (some _), _ => .ok ()

end Curfew.CommandLine
