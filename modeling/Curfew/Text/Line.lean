/-!
Lines of a text.

A line ends at a line feed, at a carriage return or at the two together; whichever it was, it counts as
a line feed.
-/

namespace Curfew.Text

/-- The text with a line feed for every line end. -/
def withLineFeeds : List Char → List Char
  | '\r' :: '\n' :: cs => '\n' :: withLineFeeds cs
  | '\r' :: cs => '\n' :: withLineFeeds cs
  | c :: cs => c :: withLineFeeds cs
  | [] => []

/-- The lines of a text that has only line feeds, each with its own. The last line may lack it, and
there is no line behind the last line feed. -/
def lines : List Char → List (List Char)
  | [] => []
  | c :: cs =>
    if c = '\n' then [c] :: lines cs
    else match lines cs with
      | [] => [[c]]
      | line :: rest => (c :: line) :: rest

end Curfew.Text
