import Curfew.Path
import Curfew.Text.Quoted
import Curfew.Text.Numeral

/-!
Why an operation on a disk fails.
-/

namespace Curfew

/-- What the system says when a path does not lead where it should. -/
inductive SystemError where
  | notPermitted
  | notFound
  | exists
  | notDirectory
  | isDirectory
  | nameTooLong
  | tooManyLinks
deriving DecidableEq

namespace SystemError

def number : SystemError → Nat
  | .notPermitted => 1
  | .notFound => 2
  | .exists => 17
  | .notDirectory => 20
  | .isDirectory => 21
  | .nameTooLong => 36
  | .tooManyLinks => 40

def description : SystemError → String
  | .notPermitted => "Operation not permitted"
  | .notFound => "No such file or directory"
  | .exists => "File exists"
  | .notDirectory => "Not a directory"
  | .isDirectory => "Is a directory"
  | .nameTooLong => "File name too long"
  | .tooManyLinks => "Too many levels of symbolic links"

end SystemError

inductive DiskFault where
  | system (error : SystemError) (path : Path)
  /-- A path that the system cannot be asked for: it holds a null character. -/
  | nullCharacter
  /-- A path that has no bytes: it holds a surrogate. -/
  | surrogate
  | pathUnavailable (path : Path)
  | unknownGroup (name : String)
  /-- A group number of more than thirty-two bits or below zero. -/
  | groupOutOfRange
deriving DecidableEq

namespace DiskFault

/-- The text of a fault that has one. -/
def message? : DiskFault → Option String
  | .system error path =>
    some s!"[Errno {error.number}] {error.description}: {Text.quote path.text}"
  | .pathUnavailable path => some s!"path not found: {path.text}"
  | .unknownGroup name => some s!"unknown group: {Text.quote name}"
  | .nullCharacter => none
  | .surrogate => none
  | .groupOutOfRange => none

end DiskFault

end Curfew
