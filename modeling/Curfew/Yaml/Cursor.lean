import Curfew.Text.Blank
import Curfew.Text.Surrogate

/-!
Places in a YAML text.

A cursor is the rest of a text with the place where it begins. Layout depends on columns and on lines,
so both are counted as the cursor moves. Past the end of the text a cursor shows the null character,
which no text holds.
-/

namespace Curfew.Yaml

/-- What keeps a text from being read as a document. -/
inductive Fault where
  /-- It breaks the rules of the language. -/
  | malformed
  /-- It ends where more must follow. -/
  | unfinished
  /-- It comes of bytes that are no UTF-8. -/
  | notUnicode
  /-- No character has the code that an escape gives. -/
  | noSuchCharacter
  /-- The code that an escape gives is beyond thirty-one bits. -/
  | hugeCharacter
  | badNumeral
  | emptyNumeral
  | hugeNumeral
  | notBool
  | notTime
  | impossibleTime
  /-- A mapping stands where the text of a time must be. -/
  | timeWithoutText
deriving DecidableEq

/-! ### Characters -/

/-- What a cursor shows past the end of the text. -/
def nul : Char := '\x00'

def isBreak (c : Char) : Bool :=
  c == '\n' || c == '\r' || c == '\x85' || c == '\u2028' || c == '\u2029'

def isBreakOrEnd (c : Char) : Bool := c == nul || isBreak c

/-- A space, a line break or the end, all of which end a word of the language itself. -/
def isSpaceOrEnd (c : Char) : Bool := c == ' ' || isBreakOrEnd c

def isTabOrSpace (c : Char) : Bool := c == ' ' || c == '\t'

/-- A space, a tab, a line break or the end. -/
def isGap (c : Char) : Bool := isTabOrSpace c || isBreakOrEnd c

/-- A character of a name: an ASCII letter or digit, a hyphen or an underscore. -/
def isNameChar (c : Char) : Bool := c.isAlphanum || c == '-' || c == '_'

/-- The characters that a text may hold, as closed ranges. -/
def allowedRanges : List (Nat × Nat) :=
  [(0x09, 0x0a), (0x0d, 0x0d), (0x20, 0x7e), (0x85, 0x85), (0xa0, 0xd7ff), (0xe000, 0xfffd),
   (0x10000, 0x10ffff)]

/-- Whether a text may hold a character. Surrogates are none, but escapes may give them. -/
def isAllowed (c : Char) : Bool := Text.inRanges allowedRanges c && !Text.Surrogate.isHeld c

/-- The mark that may stand in front of a text and has no width. -/
def byteOrderMark : Char := '\uFEFF'

/-! ### Cursors -/

structure Cursor where
  rest : List Char
  index : Nat
  line : Nat
  column : Nat
deriving DecidableEq

namespace Cursor

def ofChars (cs : List Char) : Cursor := { rest := cs, index := 0, line := 0, column := 0 }

/-- The character at the cursor. -/
def peek (c : Cursor) : Char := c.rest.headD nul

/-- The character some places ahead. -/
def peekAt (c : Cursor) (n : Nat) : Char := c.rest.getD n nul

def atEnd (c : Cursor) : Bool := c.rest.isEmpty

/-- Refuses what stands at the cursor. -/
def refuse {α : Type} (c : Cursor) : Except Fault α :=
  .error (if c.atEnd then .unfinished else .malformed)

/-- Whether a character ends a line, given the text behind it: the two that end a line together count
once. -/
def endsLine (ch : Char) (rest : List Char) : Bool :=
  if ch == '\r' then rest.headD nul != '\n' else isBreak ch

/-- The cursor behind one more character. -/
def forward (c : Cursor) : Cursor :=
  match c.rest with
  | [] => c
  | ch :: rest =>
    if endsLine ch rest then { rest, index := c.index + 1, line := c.line + 1, column := 0 }
    else if ch == byteOrderMark then { c with rest, index := c.index + 1 }
    else { c with rest, index := c.index + 1, column := c.column + 1 }

/-- The cursor behind so many more characters. -/
def advance : Nat → Cursor → Cursor
  | 0, c => c
  | n + 1, c => advance n c.forward

/-- The characters up to the first that is not of a class, and the cursor behind them. -/
def takeWhile (p : Char → Bool) (c : Cursor) : List Char × Cursor :=
  let word := c.rest.takeWhile p
  (word, c.advance word.length)

def skip (p : Char → Bool) (c : Cursor) : Cursor := (c.takeWhile p).2

def skipSpaces (c : Cursor) : Cursor := c.skip (· == ' ')

/-- The rest of the line is passed over when it is a comment. -/
def skipComment (c : Cursor) : Cursor :=
  if c.peek == '#' then c.skip fun ch => !isBreak ch else c

/-- A line break as it counts in a text, nothing if there is none, and the cursor behind it. -/
def lineBreak (c : Cursor) : List Char × Cursor :=
  match c.rest with
  | '\r' :: '\n' :: _ => (['\n'], c.advance 2)
  | ch :: _ =>
    if ch == '\u2028' || ch == '\u2029' then ([ch], c.forward)
    else if isBreak ch then (['\n'], c.forward)
    else ([], c)
  | [] => ([], c)

/-- Whether three equal marks stand at the cursor, and then a gap. -/
def showsMarks (mark : Char) (c : Cursor) : Bool :=
  c.rest.take 3 == [mark, mark, mark] && isGap (c.peekAt 3)

/-- Whether a document begins or ends here, the cursor being at the start of a line. -/
def showsBoundary (c : Cursor) : Bool := c.showsMarks '-' || c.showsMarks '.'

end Cursor

end Curfew.Yaml
