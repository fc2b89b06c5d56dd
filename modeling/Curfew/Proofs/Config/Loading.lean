import Curfew.Config.File
import Curfew.Proofs.Yaml.Making

/-! What comes of a text that is read as a document. It is a mapping, or an error with the path that the text was given
under, unless the text keeps to the rules of the language and has no value all the same. -/

namespace Curfew

namespace Yaml.Source

end Yaml.Source

/-- The value of a text. -/
def Yaml.readText (text : String) : Except Fault Value := (Source.ofChars text.toList).bind read

namespace Document
variable {path : Option String} {validate isFile : Bool} {source : Except Yaml.Fault Yaml.Source}

/-- An escape beyond all characters, and a tag that its text does not fit. -/
example : Ends (fun _ => False) (fun cause => cause = .hugeCharacter) (Yaml.readText "\"\\UFFFFFFFF\": 0700") ∧
    Ends (fun _ => False) (fun cause => cause = .badNumeral) (Yaml.readText "mode: !!int u=rw") := by
  decide +kernel

end Document

end Curfew
