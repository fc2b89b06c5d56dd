import Curfew.Text.Utf8
import Curfew.Yaml.Quoted

/-!
Words of the language that are no scalars: names of anchors, tags and directives.
-/

namespace Curfew.Yaml

/-- A tag as it is written: a handle that a directive may have set, and what follows it. -/
structure TagWord where
  handle : Option (List Char)
  suffix : List Char
deriving DecidableEq

/-- A line that speaks about the document behind it. -/
inductive Directive where
  | version (major : Nat)
  /-- The text that a handle stands for in tags. -/
  | handle (name : List Char) (meaning : List Char)
  | other
deriving DecidableEq

/-! ### Names -/

/-- A name that is not empty. -/
def nameAt (c : Cursor) : Except Fault (List Char × Cursor) :=
  let (name, c) := c.takeWhile isNameChar
  if name.isEmpty then c.refuse else .ok (name, c)

def endsAnchor (c : Char) : Bool :=
  isGap c || ['?', ':', ',', ']', '\x7d', '%', '@', '\x60'].contains c

/-- The name behind the mark of an anchor or alias. -/
def anchorAt (c : Cursor) : Except Fault (List Char × Cursor) := do
  let (name, c) ← nameAt c.forward
  unless endsAnchor c.peek do c.refuse
  return (name, c)

/-! ### Tags -/

/-- The characters of tags beside letters and digits. -/
def tagMarks : List Char :=
  ['-', ';', '/', '?', ':', '@', '&', '=', '+', '$', ',', '_', '.', '!', '~', '*', '\'', '(',
   ')', '[', ']']

def isTagChar (c : Char) : Bool := c.isAlphanum || tagMarks.contains c

/-- The bytes that are written in digits, each behind a percent sign. -/
def escapedBytes : Nat → Cursor → Except Fault (List UInt8 × Cursor)
  | 0, _ => .error .malformed
  | fuel + 1, c =>
    if c.peek == '%' then
      let c := c.forward
      do
        let (n, c) ← hexNumber 2 c
        let (bytes, c) ← escapedBytes fuel c
        return (UInt8.ofNat n :: bytes, c)
    else .ok ([], c)

/-- The characters of a tag, which may be empty. -/
def tagChars (limit : Nat) : Nat → Cursor → Except Fault (List Char × Cursor)
  | 0, _ => .error .malformed
  | fuel + 1, c => do
    let (run, c) := c.takeWhile isTagChar
    if c.peek == '%' then
      let (bytes, c) ← escapedBytes limit c
      match Text.Utf8.decode bytes with
      | none => throw .malformed
      | some cs =>
        let (rest, c) ← tagChars limit fuel c
        return (run ++ cs ++ rest, c)
    else return (run, c)

/-- The characters of a tag, at least one. -/
def tagText (limit : Nat) (c : Cursor) : Except Fault (List Char × Cursor) := do
  let (text, c) ← tagChars limit limit c
  if text.isEmpty then c.refuse else return (text, c)

/-- A handle: an exclamation mark alone, or a name between two. -/
def handleAt (c : Cursor) : Except Fault (List Char × Cursor) :=
  if c.peek != '!' then c.refuse
  else
    let (name, c) := c.forward.takeWhile isNameChar
    if name.isEmpty && c.peek == ' ' then .ok (['!'], c)
    else if c.peek == '!' then .ok ('!' :: name ++ ['!'], c.forward)
    else c.refuse

/-- Whether a tag has a handle of its own: an exclamation mark follows before the tag ends. -/
def hasHandle (c : Cursor) : Bool :=
  (c.forward.rest.takeWhile fun ch => !isSpaceOrEnd ch).contains '!'

/-- The tag at the cursor. -/
def tagAt (limit : Nat) (c : Cursor) : Except Fault (TagWord × Cursor) := do
  let (word, c) ←
    if c.peekAt 1 == '<' then do
      let (suffix, c) ← tagText limit (c.advance 2)
      if c.peek != '>' then c.refuse
      pure (TagWord.mk none suffix, c.forward)
    else if isGap (c.peekAt 1) then pure (TagWord.mk none ['!'], c.forward)
    else do
      let (handle, c) ← if hasHandle c then handleAt c else pure (['!'], c.forward)
      let (suffix, c) ← tagText limit c
      pure (TagWord.mk (some handle) suffix, c)
  unless isSpaceOrEnd c.peek do c.refuse
  return (word, c)

/-! ### Directives -/

/-- A number in ASCII digits. -/
def versionNumber (c : Cursor) : Except Fault (Nat × Cursor) :=
  let (digits, c) := c.takeWhile Char.isDigit
  if digits.isEmpty then c.refuse
  else .ok (digits.foldl (fun n d => n * 10 + (d.toNat - '0'.toNat)) 0, c)

def versionAt (c : Cursor) : Except Fault (Directive × Cursor) := do
  let (major, c) ← versionNumber c.skipSpaces
  if c.peek != '.' then c.refuse
  let (_, c) ← versionNumber c.forward
  unless isSpaceOrEnd c.peek do c.refuse
  return (.version major, c)

def handleDirectiveAt (limit : Nat) (c : Cursor) : Except Fault (Directive × Cursor) := do
  let (handle, c) ← handleAt c.skipSpaces
  if c.peek != ' ' then c.refuse
  let (meaning, c) ← tagText limit c.skipSpaces
  unless isSpaceOrEnd c.peek do c.refuse
  return (.handle handle meaning, c)

/-- The directive at the cursor, with its line. -/
def directiveAt (limit : Nat) (c : Cursor) : Except Fault (Directive × Cursor) := do
  let (name, c) ← nameAt c.forward
  unless isSpaceOrEnd c.peek do c.refuse
  let (directive, c) ←
    if name = "YAML".toList then versionAt c
    else if name = "TAG".toList then handleDirectiveAt limit c
    else pure (.other, c.skip fun ch => !isBreak ch)
  let c := c.skipSpaces.skipComment
  unless isBreakOrEnd c.peek do c.refuse
  return (directive, c.lineBreak.2)

end Curfew.Yaml
