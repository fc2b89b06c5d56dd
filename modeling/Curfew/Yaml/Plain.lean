import Curfew.Yaml.Quoted

/-!
Plain scalars: texts without quotes.

A plain text ends where a character has a meaning of its own; which ones do depends on whether the
text stands between brackets. It may go on over lines that are indented deep enough.
-/

namespace Curfew.Yaml

/-- The characters that have a meaning of their own at the start of a scalar. -/
def indicators : List Char :=
  ['-', '?', ':', ',', '[', ']', '\x7b', '\x7d', '#', '&', '*', '!', '|', '>', '\'', '"', '%',
   '@', '\x60']

/-- Whether a plain text may begin at the cursor. -/
def startsPlain (inFlow : Bool) (c : Cursor) : Bool :=
  !(isGap c.peek || indicators.contains c.peek) ||
    (!isGap (c.peekAt 1) && (c.peek == '-' || (!inFlow && (c.peek == '?' || c.peek == ':'))))

def isFlowMark (c : Char) : Bool := [',', '[', ']', '\x7b', '\x7d'].contains c

/-- The run of plain characters at the start of a text. -/
def plainRun (inFlow : Bool) : List Char → List Char
  | [] => []
  | c :: rest =>
    let next := rest.headD nul
    if isGap c || (c == ':' && (isGap next || (inFlow && isFlowMark next))) ||
        (inFlow && (c == '?' || isFlowMark c)) then []
    else c :: plainRun inFlow rest

/-- Line breaks and spaces between lines, `none` in front of where a document begins or ends. -/
def plainBreaks : Nat → Cursor → Option (List Char) × Cursor
  | 0, c => (none, c)
  | fuel + 1, c =>
    if c.peek == ' ' then plainBreaks fuel c.forward
    else if isBreak c.peek then
      let (mark, c) := c.lineBreak
      if c.showsBoundary then (none, c)
      else
        let (marks?, c) := plainBreaks fuel c
        (marks?.map (mark ++ ·), c)
    else (some [], c)

/-- What stands between two runs, nothing when no run may follow; whether a line ended; and the
cursor behind it. -/
def plainGap (limit : Nat) (c : Cursor) : List Char × Bool × Cursor :=
  let (spaces, c) := c.takeWhile (· == ' ')
  if isBreak c.peek then
    let (mark, c) := c.lineBreak
    if c.showsBoundary then ([], true, c)
    else match plainBreaks limit c with
      | (none, c) => ([], true, c)
      | (some marks, c) => (foldBreaks mark marks, true, c)
  else (spaces, false, c)

/-- The plain text at the cursor, whether a line ended behind it, and the cursor behind it. The gap
is what stood before, to be kept if a run follows. -/
def plainText (inFlow : Bool) (floor limit : Nat) :
    Nat → List Char → Bool → Cursor → List Char × Bool × Cursor
  | 0, _, ended, c => ([], ended, c)
  | fuel + 1, gap, ended, c =>
    let run := plainRun inFlow c.rest
    if c.peek == '#' || run.isEmpty then ([], ended, c)
    else
      let (next, ended, c) := plainGap limit (c.advance run.length)
      if next.isEmpty || c.peek == '#' || (!inFlow && c.column < floor) then (gap ++ run, ended, c)
      else
        let (text, ended, c) := plainText inFlow floor limit fuel next ended c
        (gap ++ run ++ text, ended, c)

end Curfew.Yaml
