import Curfew.Config.Outline
import Curfew.Notice

/-!
Config documents.

A document must be a mapping; an empty one counts as an empty mapping. Checking it looks at every
node, so that a malformed document fails before any entry is touched.
-/

namespace Curfew

/-- What is wrong with a document. -/
inductive DocumentFault where
  /-- A file or a text that cannot be read as a document. -/
  | unreadable (isFile : Bool)
  | notMapping
  | node (error : NodeError)

/-- A refused document, with the path it was given under. -/
structure ConfigError where
  fault : DocumentFault
  path : Option String

/-- The path of a document for messages; an empty one counts as none. -/
def shownPath (path : Option String) : Option String := path.filter fun p => !p.isEmpty

namespace ConfigError

/-- What stands for the reader's own words in a message. -/
def readerSummary : String := "<yaml>"

def faultMessage : DocumentFault → String
  | .unreadable true => s!"Failed to parse YAML: {readerSummary}"
  | .unreadable false => s!"Failed to parse YAML string: {readerSummary}"
  | .notMapping => "Watchdog config must be a YAML mapping (dict)."
  | .node error => error.message

def message (e : ConfigError) : String :=
  match shownPath e.path with
  | some path => s!"[{path}] {faultMessage e.fault}"
  | none => faultMessage e.fault

/-- The issues of an error that comes of them. -/
def issues? (e : ConfigError) : Option (List Issue) :=
  match e.fault with
  | .node error => error.fault.issues?
  | _ => none

/-- An error found where no document is named. -/
def ofNode (error : NodeError) : ConfigError := ⟨.node error, none⟩

end ConfigError

namespace Document

/-- The mapping of a document's value, checked if wanted. -/
def ofValue (value : Value) (path : Option String) (validate : Bool) : Told ConfigError Entries := do
  let entries ← match value with
    | .null => pure []
    | .map entries => pure entries
    | _ => Told.fail ⟨.notMapping, path⟩
  if validate then
    match (Outline.ofEntries entries).count Outline.rootLocation with
    | .error error => Told.fail ⟨.node error, path⟩
    | .ok count =>
      Told.tell ⟨.info, .config, s!"Loaded watchdog config with {count} declared nodes from " ++
        (shownPath path).getD "<dict>"⟩
  return entries

end Document

end Curfew
