import Curfew.Config.Document
import Curfew.Yaml.Reading

/-!
Documents read from text.
-/

namespace Curfew

/-- Why a document's text gives no config: the config is refused, or the text has no value. -/
inductive SourceFault where
  | config (error : ConfigError)
  | text (fault : Yaml.Fault)

namespace Document

/-- The value of a source, which is that of a file or of a text. -/
def valueOf (source : Except Yaml.Fault Yaml.Source) (isFile : Bool) (path : Option String) :
    Except SourceFault Value :=
  match source.bind Yaml.read with
  | .ok value => .ok value
  | .error .malformed => .error (.config ⟨.unreadable isFile, path⟩)
  | .error .unfinished => .error (.config ⟨.unreadable isFile, path⟩)
  | .error fault => .error (.text fault)

/-- The mapping of a source, checked if wanted. -/
def ofSource (source : Except Yaml.Fault Yaml.Source) (isFile : Bool) (path : Option String)
    (validate : Bool) : Told SourceFault Entries := do
  let value ← Told.ofExcept (valueOf source isFile path)
  (ofValue value path validate).mapFault .config

/-- The mapping of a text, checked if wanted. -/
def ofText (text : String) (path : Option String) (validate : Bool) : Told SourceFault Entries :=
  ofSource (Yaml.Source.ofChars text.toList) false path validate

end Document

end Curfew
