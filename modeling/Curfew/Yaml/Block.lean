import Curfew.Yaml.Cursor

/-!
Block scalars: literal and folded texts that are set off by their indentation.

The header tells how the line breaks at the end count and how deep the text is indented; without a
number, the first line that is not empty tells.
-/

namespace Curfew.Yaml

/-- What becomes of the line breaks that end a block. -/
inductive Chomping where
  | strip
  | clip
  | keep
deriving DecidableEq

structure BlockHeader where
  chomping : Chomping
  indentation : Option Nat
deriving DecidableEq

namespace BlockHeader

def chomping? : Char → Option Chomping
  | '+' => some .keep
  | '-' => some .strip
  | _ => none

/-- An indentation at the cursor; it must not be zero. -/
def indentationAt (c : Cursor) : Except Fault (Option Nat × Cursor) :=
  if c.peek.isDigit then
    if c.peek == '0' then c.refuse
    else .ok (some (c.peek.toNat - '0'.toNat), c.forward)
  else .ok (none, c)

def chompingAt (c : Cursor) : Chomping × Cursor :=
  match chomping? c.peek with
  | some chomping => (chomping, c.forward)
  | none => (.clip, c)

/-- The header behind the mark of a block, up to the next line. -/
def read (c : Cursor) : Except Fault (BlockHeader × Cursor) := do
  let (header, c) ← match chomping? c.peek with
    | some chomping => do
      let (indentation, c) ← indentationAt c.forward
      pure (BlockHeader.mk chomping indentation, c)
    | none => do
      let (indentation, c) ← indentationAt c
      let (chomping, c) := if indentation.isSome then chompingAt c else (.clip, c)
      pure (BlockHeader.mk chomping indentation, c)
  unless isSpaceOrEnd c.peek do c.refuse
  let c := c.skipSpaces.skipComment
  unless isBreakOrEnd c.peek do c.refuse
  return (header, c.lineBreak.2)

end BlockHeader

/-- Empty lines at the start of a block, and the depth of the deepest space among them and on the
first line that is not empty. -/
def blockDepth : Nat → Nat → Cursor → List Char × Nat × Cursor
  | 0, depth, c => ([], depth, c)
  | fuel + 1, depth, c =>
    if c.peek == ' ' then
      let c := c.forward
      blockDepth fuel (max depth c.column) c
    else if isBreak c.peek then
      let (mark, c) := c.lineBreak
      let (marks, depth, c) := blockDepth fuel depth c
      (mark ++ marks, depth, c)
    else ([], depth, c)

/-- The spaces up to a depth are passed over. -/
def skipIndent (depth : Nat) (c : Cursor) : Cursor :=
  c.advance ((c.rest.take (depth - c.column)).takeWhile (· == ' ')).length

/-- The empty lines of a block of some depth. -/
def blockBreaks (depth : Nat) : Nat → Cursor → List Char × Cursor
  | 0, c => ([], c)
  | fuel + 1, c =>
    let c := skipIndent depth c
    if isBreak c.peek then
      let (mark, c) := c.lineBreak
      let (marks, c) := blockBreaks depth fuel c
      (mark ++ marks, c)
    else ([], c)

/-- A block from the first line that is not read yet. -/
structure BlockRest where
  text : List Char
  /-- The line break of the last line, as it counts. -/
  mark : List Char
  /-- Those of the empty lines behind it. -/
  marks : List Char
  cursor : Cursor

/-- The lines of a block of some depth, the first behind empty ones. -/
def blockLines (folded : Bool) (depth limit : Nat) : Nat → List Char → Cursor → BlockRest
  | 0, marks, c => { text := [], mark := [], marks, cursor := c }
  | fuel + 1, before, c =>
    let startsWord := !isTabOrSpace c.peek
    let (line, c) := c.takeWhile fun ch => !isBreak ch
    let (mark, c) := c.lineBreak
    let (marks, c) := blockBreaks depth limit c
    if c.column = depth && !c.atEnd then
      let fold := folded && mark == ['\n'] && startsWord && !isTabOrSpace c.peek
      let joint := if fold then if marks.isEmpty then [' '] else [] else mark
      let rest := blockLines folded depth limit fuel marks c
      { rest with text := before ++ line ++ joint ++ rest.text }
    else { text := before ++ line, mark, marks, cursor := c }

/-- The text of a block behind its mark, and the cursor behind it; the block is inside another one
whose content is indented at least as deep as the floor. -/
def blockText (folded : Bool) (floor limit : Nat) (c : Cursor) :
    Except Fault (List Char × Cursor) := do
  let (header, c) ← BlockHeader.read c
  let least := max floor 1
  let (marks, depth, c) := match header.indentation with
    | some indentation =>
      let depth := least + indentation - 1
      let (marks, c) := blockBreaks depth limit c
      (marks, depth, c)
    | none =>
      let (marks, deepest, c) := blockDepth limit 0 c
      (marks, max least deepest, c)
  let rest :=
    if c.column = depth && !c.atEnd then blockLines folded depth limit limit marks c
    else { text := [], mark := [], marks, cursor := c }
  return match header.chomping with
    | .strip => (rest.text, rest.cursor)
    | .clip => (rest.text ++ rest.mark, rest.cursor)
    | .keep => (rest.text ++ rest.mark ++ rest.marks, rest.cursor)

end Curfew.Yaml
