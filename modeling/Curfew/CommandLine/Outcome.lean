import Curfew.Audit
import Curfew.CommandLine.Misuse
import Curfew.Config.File
import Curfew.Text.Markup
import Curfew.Tree.Apply

/-!
What comes of a command: how it ends, and what it prints.

A command acts on a host and gives notices. It ends by itself, refuses its input with a message, or is
stopped by a fault that it has no message for.
-/

namespace Curfew.CommandLine

/-- What can stop a command. -/
inductive Stop where
  | argument (fault : DiskFault)
  | file (fault : FileFault)
  | tree (fault : TreeFault)
  | clock (fault : ClockFault)
  | audit (fault : AuditFault)
  | expression (error : InvalidExpression)

/-- How a command ends. -/
inductive Ending where
  | done
  | refused
  | misused
  /-- By a fault that the command does not report. -/
  | stopped (cause : Stop)

def Ending.exitCode : Ending → Nat
  | .done => 0
  | .refused => 1
  | .misused => 2
  | .stopped _ => 1

/-- How a command ends and the lines it prints, on the output and on the error output. -/
structure Outcome where
  ending : Ending
  out : List String
  err : List String

namespace Outcome

def done (out : List String) : Outcome := { ending := .done, out, err := [] }

def refused (err : List String) : Outcome := { ending := .refused, out := [], err }

def stopped (cause : Stop) : Outcome := { ending := .stopped cause, out := [], err := [] }

end Outcome

/-! ### Printing -/

/-- How many cells a line of the screen has. -/
def screenWidth : Nat := 1000

/-- How many of them a frame leaves for what is in it. -/
def framedWidth : Nat := screenWidth - 4

/-- The lines that a command prints for an error. -/
def errorLines (message : String) : List String :=
  Text.Markup.lines screenWidth s!"[red]Error:[/red] {message}"

/-! ### Acting on a host -/

/-- The host as it is by now and the notices given so far. -/
structure Session where
  host : Host
  notices : List Notice

/-- Steps of a command that may be stopped and keep what was done. -/
abbrev Acting := EStateM Stop Session

namespace Acting

variable {ε α : Type}

/-- A result, or its fault as what stops the command. -/
def ofExcept (stop : ε → Stop) : Except ε α → Acting α
  | .ok a => return a
  | .error fault => throw (stop fault)

/-- The same with the notices that were given. -/
def ofTold (stop : ε → Stop) (told : Told ε α) : Acting α := do
  modify fun s => { s with notices := s.notices ++ told.notices }
  ofExcept stop told.outcome

def host : Acting Host := do return (← get).host

/-- Appends the records of a report to an audit file. -/
def logReport (audit : Audit) (root : Path) (report : Report) : Acting Unit := do
  let s ← get
  match (audit.logReport root report).run s.host with
  | .ok _ host => set { host, notices := s.notices ++ [audit.logged root report] : Session }
  | .error fault host =>
    set { s with host }
    throw (.audit fault)

/-- Applies a tree to the host. -/
def apply (t : Tree) (clock : Clock) (isDryRun : Bool) : Acting Report := do
  let s ← get
  let applied := t.apply s.host clock isDryRun
  set { host := applied.run.host, notices := s.notices ++ applied.run.notices : Session }
  match applied.fault with
  | some fault => throw (.tree fault)
  | none => return applied.run.report

/-- What comes of steps that print lines, given what the command prints for the stops it reports. -/
def outcome (reported : Stop → Option (List String)) (steps : Acting (List String)) (s : Session) :
    Outcome × Session :=
  match steps.run s with
  | .ok out s => (.done out, s)
  | .error cause s =>
    match reported cause with
    | some err => (.refused err, s)
    | none => (.stopped cause, s)

end Acting

end Curfew.CommandLine
