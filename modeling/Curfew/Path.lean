import Curfew.Text.Blank

/-!
Paths as lists of names.

Repeated slashes, a slash at the end and single dots say nothing and are dropped when a path is read;
double dots stay, because what they mean depends on links. `absolute` takes them for the name before
all the same.
-/

namespace Curfew

/-- Where a path begins. -/
inductive Root where
  /-- At the working directory. -/
  | working
  | top
  /-- At the top, written with two slashes, which keep their number. -/
  | doubled
deriving DecidableEq

structure Path where
  root : Root
  names : List String
deriving DecidableEq

namespace Path

def Root.chars : Root → List Char
  | .working => []
  | .top => ['/']
  | .doubled => ['/', '/']

/-- The root that a text begins with. -/
def rootOf (cs : List Char) : Root :=
  match cs with
  | '/' :: '/' :: '/' :: _ => .top
  | '/' :: '/' :: _ => .doubled
  | '/' :: _ => .top
  | _ => .working

/-- The path of a text. -/
def ofText (s : String) : Path :=
  let names := (Text.splitAt '/' s.toList).map String.ofList
  { root := rootOf s.toList, names := names.filter fun name => name ≠ "" ∧ name ≠ "." }

/-- The text of a path; the working directory is a dot. -/
def text (p : Path) : String :=
  if p.root = .working && p.names.isEmpty then "."
  else String.ofList (Root.chars p.root) ++ String.intercalate "/" p.names

instance : ToString Path := ⟨text⟩

/-- The path of one more name. -/
def child (p : Path) (name : String) : Path := { p with names := p.names ++ [name] }

/-- The path of more names. -/
def below (p : Path) (names : List String) : Path := { p with names := p.names ++ names }

/-- The path without its last name. -/
def parent (p : Path) : Path := { p with names := p.names.dropLast }

/-- One path behind another; one from the top stays as it is. -/
def join (p q : Path) : Path :=
  if q.root = .working then { p with names := p.names ++ q.names } else q

/-- The names of a path from the top after one more, double dots taking the last one away. -/
def climb (names : List String) (name : String) : List String :=
  if name = ".." then names.dropLast else names ++ [name]

/-- The path from the top, by its text alone and without double dots. -/
def absolute (p workingDirectory : Path) : Path :=
  let full := workingDirectory.join p
  { full with names := full.names.foldl climb [] }

end Path

end Curfew
