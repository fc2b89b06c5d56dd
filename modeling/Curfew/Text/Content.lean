import Curfew.Text.Line
import Curfew.Text.Utf8

/-!
The text of a file.

Files are UTF-8. Their bytes are read in portions, and a portion that is none ends what can be read:
the text in front of it is still there. A character that two portions share belongs to the second.
-/

namespace Curfew.Text

/-- The text of a file as far as it can be read, with a line feed for every line end. -/
structure Content where
  chars : List Char
  /-- Whether all of the file could be read. -/
  isWhole : Bool
deriving DecidableEq

namespace Content

/-- How many bytes are read at a time. -/
def portion : Nat := 8192

/-- The characters of the portions in front of the first that cannot be read. The first ones, so many
bytes of them, were read before and hold the given characters if they are fewer than all. -/
def front (bs : List UInt8) : Nat → Nat → List Char → List Char
  | 0, _, before => before
  | fuel + 1, size, before =>
    match Utf8.decodeOpen (bs.take (size + portion)) with
    | none => before
    | some cs =>
      if bs.length ≤ size + portion then cs else front bs fuel (size + portion) cs

/-- A carriage return at an end that is not the end of the file may be half of a line end. -/
def withoutOpenReturn (cs : List Char) : List Char :=
  if cs.getLast? = some '\r' then cs.dropLast else cs

def ofBytes (bs : List UInt8) : Content :=
  match Utf8.decode bs with
  | some cs => { chars := withLineFeeds cs, isWhole := true }
  | none =>
    let cs := front bs (bs.length / portion + 1) 0 []
    { chars := withLineFeeds (withoutOpenReturn cs), isWhole := false }

/-- The lines of a file, of which the last may lack its end. Where the file could not be read to its
end, they are those whose ends were read. -/
def lines (content : Content) : List (List Char) :=
  let lines := Text.lines content.chars
  if content.isWhole then lines else lines.filter fun line => line.getLast? = some '\n'

end Content

end Curfew.Text
