import Curfew.Text.Line
import Curfew.Text.Blank
import Curfew.Text.Emoji
import Curfew.Text.Quoted
import Curfew.Text.Wrap

/-!
Texts for the terminal and what a reader sees of them.

A tag in square brackets styles the text behind it and is not seen itself; a backslash before it makes
it plain text. The name of an emoji between colons stands for the emoji. What is seen is taken as
lines of words: frames and runs of blanks part words, and blank lines are left out.
-/

namespace Curfew.Text.Markup

/-! ### Tags -/

/-- Whether a tag may begin with a character. -/
def opensTag (c : Char) : Bool := ('a' ≤ c && c ≤ 'z') || c == '#' || c == '/' || c == '@'

/-- How many characters a tag has behind its opening bracket, the closing one included. -/
def tagLength? (cs : List Char) : Option Nat :=
  match cs with
  | [] => none
  | c :: rest =>
    if opensTag c then
      let body := rest.takeWhile fun d => d ≠ ']' ∧ d ≠ '['
      match rest.drop body.length with
      | ']' :: _ => some (body.length + 2)
      | _ => none
    else none

def backslashes (count : Nat) : List Char := List.replicate count '\\'

/-- The pieces with more text in front of the first. -/
def withFront (cs : List Char) : List (List Char) → List (List Char)
  | [] => [cs]
  | piece :: pieces => (cs ++ piece) :: pieces

/-- The pieces of a text between its tags, when so many characters more belong to a tag and so many
backslashes stand before the rest. Of the backslashes before a tag each pair counts as one, and a single
one before any bracket is dropped. -/
def pieces : Nat → Nat → List Char → List (List Char)
  | _, slashes, [] => [backslashes slashes]
  | tag + 1, _, _ :: cs => pieces tag 0 cs
  | 0, slashes, c :: cs =>
    if c = '\\' then pieces 0 (slashes + 1) cs
    else if c = '[' then
      match tagLength? cs with
      | some length =>
        let plain := if slashes % 2 = 1 then '[' :: cs.take length else []
        [] :: backslashes (slashes / 2) :: plain :: pieces length 0 cs
      | none => withFront (backslashes (slashes - 1) ++ ['[']) (pieces 0 0 cs)
    else withFront (backslashes slashes ++ [c]) (pieces 0 0 cs)

/-- Whether a character only moves the cursor or rings and so is not written. -/
def isControl (c : Char) : Bool :=
  c == '\x07' || c == '\x08' || c == '\x0b' || c == '\x0c' || c == '\r'

/-- A character as it is written; a surrogate is written as its escape. -/
def writtenChar (c : Char) : List Char :=
  if isControl c then []
  else if Surrogate.isHeld c then hexEscape (Surrogate.codePoint c)
  else [c]

/-- The text that is written for a text with tags. -/
def written (s : String) : List Char :=
  ((pieces 0 0 s.toList).flatMap Emoji.replace).flatMap writtenChar

/-! ### Lines of words -/

/-- The characters that end a line, a carriage return with its line feed being one line feed. -/
def endsLine (c : Char) : Bool :=
  inRanges [(0x0a, 0x0d), (0x1c, 0x1e), (0x85, 0x85), (0x2028, 0x2029)] c

/-- Whether a character is part of a frame. -/
def isFrame (c : Char) : Bool := inRanges [(0x2500, 0x257f)] c

/-- The words of a text with one space between each two. -/
def words (cs : List Char) : List Char :=
  let spaced := cs.map fun c => if isFrame c || isBlank c then ' ' else c
  joinWith [' '] ((splitAt ' ' spaced).filter fun word => !word.isEmpty)

/-- The lines of a text that are not blank, each as words. -/
def plainLines (cs : List Char) : List String :=
  let broken := cs.map fun c => if endsLine c then '\n' else c
  let shown := ((splitAt '\n' broken).map words).filter fun line => !line.isEmpty
  shown.map String.ofList

/-- The lines that a reader sees of a text with tags on a screen of some width. -/
def lines (screen : Nat) (s : String) : List String :=
  (Wrap.lines true screen (written s)).flatMap plainLines

/-! ### Control sequences -/

/-- How many characters a control sequence has behind the escape: a bracket, parameters and a letter. -/
def sequenceLength? (cs : List Char) : Option Nat :=
  match cs with
  | '[' :: rest =>
    let parameters := rest.takeWhile fun c => c.isDigit || c == ';' || c == '?'
    match rest.drop parameters.length with
    | c :: _ => if c.isAlpha then some (parameters.length + 2) else none
    | [] => none
  | _ => none

/-- A text without the control sequences of a terminal, so many characters more being part of one. -/
def withoutSequences : Nat → List Char → List Char
  | _, [] => []
  | inside + 1, _ :: cs => withoutSequences inside cs
  | 0, c :: cs =>
    match if c = '\x1b' then sequenceLength? cs else none with
    | some length => withoutSequences length cs
    | none => c :: withoutSequences 0 cs

/-- The lines that a reader sees of a text without tags. -/
def untagged (s : String) : List String := plainLines (withoutSequences 0 s.toList)

/-! ### Tables -/

/-- How wide a cell of a table has to be: as wide as its widest line. -/
def measure (cs : List Char) : Nat :=
  (splitAt '\n' (cs.map fun c => if endsLine c then '\n' else c)).foldl
    (fun most line => max most (Cell.width line)) 0

/-- The widths of the columns that stand side by side in all rows. -/
def widths (rows : List (List (List Char))) : List Nat :=
  rows.foldl (fun most row =>
    (List.range (max most.length row.length)).map fun i =>
      max ((most[i]?).getD 0) (measure ((row[i]?).getD []))) []

/-- The widths of columns on a screen of some width. Each column takes three cells more, and the table
one; the first column gives way to the others. -/
def fitted (screen : Nat) (widths : List Nat) : List Nat :=
  match widths with
  | [] => []
  | first :: rest =>
    let others := rest.foldl (fun n width => n + width + 3) 4
    min first (screen - others) :: rest

/-- The lines of the cells of a row, side by side. -/
def row (widths : List Nat) (cells : List (List Char)) : List String :=
  let columns := (widths.zip cells).map fun column =>
    (Wrap.lines false column.1 column.2).map (Wrap.shorten column.1)
  let height := columns.foldl (fun most column => max most column.length) 0
  let line (i : Nat) : List Char := columns.flatMap fun column => ' ' :: (column[i]?).getD []
  (List.range height).flatMap fun i => plainLines (line i)

/-- The lines that a reader sees of the rows of a table, whose cells are texts with tags. -/
def table (screen : Nat) (rows : List (List String)) : List String :=
  let rows := rows.map fun cells => cells.map written
  rows.flatMap (row (fitted screen (widths rows)))

end Curfew.Text.Markup
