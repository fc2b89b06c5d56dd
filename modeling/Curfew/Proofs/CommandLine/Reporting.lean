import Curfew.Proofs.CommandLine.Trail
import Curfew.Proofs.Config.Loading

/-! What is reported of documents that give no config. The errors of a config are, with the path of the document. A text
that keeps to the rules of the language and has no value all the same is not, and stops the command. -/

namespace Curfew.CommandLine

namespace Unreported

/-- A config whose only key is a day that no calendar has. -/
def text : String := "2023-02-29: '0700'\n"

/-- The command that applies it. -/
def request : Apply.Request := { root := "/course" }

end Unreported

end Curfew.CommandLine
