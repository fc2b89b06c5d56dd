import Curfew.CommandLine.Form
import Curfew.Time.Typed
import Curfew.Tree.Build

/-!
The command that applies a config to a directory.

The config is the named file or the one in the directory. What was changed, or would be, is shown as a
table with a summary, and goes to the audit file if one is named.
-/

namespace Curfew.CommandLine.Apply

/-- The options of the command. -/
inductive Key where
  | config
  | dryRun
  | now
  | auditLog
  | verbose
  | help
deriving DecidableEq

def form : Form Key where
  name := "apply"
  argument := some "ROOT"
  switches :=
    [{ key := .config, names := ["--config", "-c"], takesValue := true },
     { key := .dryRun, names := ["--dry-run", "-n"] },
     { key := .now, names := ["--now"], takesValue := true },
     { key := .auditLog, names := ["--audit-log"], takesValue := true },
     { key := .verbose, names := ["--verbose", "-v"] },
     { key := .help, names := ["--help"] }]
  helpKey := .help

/-- What is asked for. An empty path of the config or the audit file counts as none. -/
structure Request where
  root : String
  config : String := ""
  isDryRun : Bool := false
  now : Option WallTime := none
  auditLog : String := ""

namespace Request

/-- How a time may be given, for messages. -/
def formats : String := "'%Y-%m-%d', '%Y-%m-%dT%H:%M:%S', '%Y-%m-%d %H:%M:%S'"

/-- The request with one option taken into account. -/
def withUse (h : Host) (r : Request) (use : Use Key) : Except Detour Request :=
  let place := use.switch.shownNames
  let value := use.value.getD ""
  match use.switch.key with
  | .config => do
    checkPath h place .file false value
    return { r with config := value }
  | .auditLog => do
    checkPath h place .file false value
    return { r with auditLog := value }
  | .now =>
    match Typed.ofText? value with
    | some now => return { r with now }
    | none =>
      throw (.misuse (.badValue place s!"{Text.quote value} does not match the formats {formats}."))
  | .dryRun => return { r with isDryRun := true }
  | .verbose | .help => return r

/-- What the words of a line ask for. -/
def ofWords (h : Host) (words : List String) : Except Detour Request := do
  let g ← form.given words
  let r ← g.settled.foldlM (withUse h) { root := "" }
  let root ← Form.argumentOf "ROOT" g
  checkPath h "'ROOT'" .directory true root
  Form.noMore 1 g
  return { r with root }

/-- The config of a directory where none is named. -/
def defaultName : String := "_watchdog.yml"

def configPath (r : Request) : Path :=
  if r.config.isEmpty then (Path.ofText r.root).child defaultName else .ofText r.config

/-- The time to evaluate at, by default that of the host. -/
def time (r : Request) (h : Host) : When := (r.now.map When.wall).getD (.stamp (.utc h.now))

end Request

/-! ### Running -/

/-- Applies the config that is asked for, and keeps the audit trail. -/
def run (r : Request) (runId : String) : Acting Report := do
  let h ← Acting.host
  let entries ← Acting.ofTold .file (Document.ofFile h r.configPath true)
  let tree ← Acting.ofTold .tree (Tree.build h (.map entries) (.ofText r.root))
  let clock ← Acting.ofExcept .clock (Clock.freeze h.zone (r.time h))
  let report ← Acting.apply tree clock r.isDryRun
  if !r.auditLog.isEmpty then
    Acting.logReport { path := .ofText r.auditLog, runId } tree.path report
  return report

/-- The message for a fault that the command reports: those of the config, the disk and the tree, but
none of the audit file. -/
def message? : Stop → Option String
  | .file (.missing path) => some (Document.missingMessage path)
  | .file (.disk fault) => fault.message?
  | .file (.source (.config error)) => some error.message
  | .tree (.config error) => some (ConfigError.ofNode error).message
  | .tree (.disk fault) => fault.message?
  | .tree (.expression error) => some error.message
  | _ => none

/-! ### Printing -/

def modeCell (c : Change) : String :=
  let old := (Mode.ofInt c.oldMode).text
  if c.modeChanged then s!"{old} → [bold]{(Mode.ofInt c.newMode).text}[/bold]" else old

def groupCell (c : Change) : String :=
  if c.groupChanged then s!"[magenta]{c.group}[/magenta]" else ""

/-- The table of the changes, if there are any. -/
def table (r : Report) : List String :=
  if r.changes.isEmpty then []
  else
    let rows := r.changes.map fun c => [c.path.text, modeCell c, groupCell c]
    (if r.isDryRun then "Planned Changes" else "Applied Changes") ::
      Text.Markup.table screenWidth (["Path", "Mode", "Group"] :: rows)

def summary (r : Report) : List String :=
  [if r.isDryRun then "Dry Run" else "Watchdog",
   s!"Visited: {r.visited} Mode changes: {r.modeChanges} Group changes: {r.groupChanges}"]

/-- Runs the command. -/
def outcome (r : Request) (runId : String) : Session → Outcome × Session :=
  Acting.outcome (fun cause => (message? cause).map errorLines) do
    let report ← run r runId
    return table report ++ summary report

end Curfew.CommandLine.Apply
