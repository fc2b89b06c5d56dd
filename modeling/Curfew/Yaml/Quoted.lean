import Curfew.Text.Digit
import Curfew.Text.Surrogate
import Curfew.Yaml.Cursor

/-!
Quoted scalars.

Between double quotes a backslash gives characters that do not show; between single quotes only the
quote itself is special and is written twice. A line break between words counts as a space, and
further ones as themselves.
-/

namespace Curfew.Yaml

/-! ### Escapes -/

/-- The character that a letter behind a backslash stands for. -/
def namedEscape? : Char → Option Char
  | '0' => some nul
  | 'a' => some '\x07'
  | 'b' => some '\x08'
  | 't' => some '\t'
  | '\t' => some '\t'
  | 'n' => some '\n'
  | 'v' => some '\x0b'
  | 'f' => some '\x0c'
  | 'r' => some '\r'
  | 'e' => some '\x1b'
  | ' ' => some ' '
  | '"' => some '"'
  | '\\' => some '\\'
  | '/' => some '/'
  | 'N' => some '\x85'
  | '_' => some '\xa0'
  | 'L' => some '\u2028'
  | 'P' => some '\u2029'
  | _ => none

/-- How many digits follow a letter that introduces a code. -/
def codeLength? : Char → Option Nat
  | 'x' => some 2
  | 'u' => some 4
  | 'U' => some 8
  | _ => none

/-- What an ASCII digit of base sixteen stands for. -/
def hexDigit? (c : Char) : Option Nat := if c.toNat < 0x80 then Text.digit? 16 c else none

/-- The number of so many digits of base sixteen at the cursor, and the cursor behind them. -/
def hexNumber (count : Nat) (c : Cursor) : Except Fault (Nat × Cursor) :=
  let digits := ((c.rest.take count).takeWhile fun ch => (hexDigit? ch).isSome).filterMap hexDigit?
  let behind := c.advance digits.length
  if digits.length = count then .ok (digits.foldl (fun n d => n * 16 + d) 0, behind)
  else behind.refuse

/-- The character of a code. Half a pair is a character of its own here, also beside its other half. -/
def character (code : Nat) : Except Fault Char :=
  if code < 0x110000 then .ok (Text.Surrogate.character code)
  else if code < 0x80000000 then .error .noSuchCharacter
  else .error .hugeCharacter

/-- The character of a code of so many digits at the cursor. -/
def codedCharacter (count : Nat) (c : Cursor) : Except Fault (Char × Cursor) := do
  let (code, c) ← hexNumber count c
  return (← character code, c)

/-! ### Breaks -/

/-- The line breaks at the start of lines that hold nothing else. -/
def emptyLines (limit : Nat) (c : Cursor) : Except Fault (List Char × Cursor) :=
  match limit with
  | 0 => .error .malformed
  | limit + 1 =>
    if c.showsBoundary then .error .malformed
    else
      let c := c.skip isTabOrSpace
      if isBreak c.peek then do
        let (mark, c) := c.lineBreak
        let (marks, c) ← emptyLines limit c
        return (mark ++ marks, c)
      else .ok ([], c)

/-- What a line break and the empty lines after it count as. -/
def foldBreaks (mark marks : List Char) : List Char :=
  if mark ≠ ['\n'] then mark ++ marks else if marks.isEmpty then [' '] else marks

/-- Blanks between words, or what the line breaks among them count as. -/
def quotedGap (limit : Nat) (c : Cursor) : Except Fault (List Char × Cursor) := do
  let (blanks, c) := c.takeWhile isTabOrSpace
  if isBreak c.peek then
    let (mark, c) := c.lineBreak
    let (marks, c) ← emptyLines limit c
    return (foldBreaks mark marks, c)
  else return (blanks, c)

/-- What a backslash gives, the cursor being behind it. -/
def escaped (limit : Nat) (c : Cursor) : Except Fault (List Char × Cursor) :=
  match namedEscape? c.peek, codeLength? c.peek with
  | some ch, _ => .ok ([ch], c.forward)
  | none, some count => do
    let (ch, c) ← codedCharacter count c.forward
    return ([ch], c)
  | none, none => if isBreak c.peek then emptyLines limit c.lineBreak.2 else c.refuse

/-! ### Scalars -/

/-- The text up to the closing quote, and the cursor behind it. -/
def quotedText (quote : Char) (limit : Nat) : Nat → Cursor → Except Fault (List Char × Cursor)
  | 0, _ => .error .malformed
  | fuel + 1, c =>
    let go (piece : List Char) (c : Cursor) : Except Fault (List Char × Cursor) :=
      match quotedText quote limit fuel c with
      | .error fault => .error fault
      | .ok (text, c) => .ok (piece ++ text, c)
    match c.rest with
    | [] => c.refuse
    | ch :: rest =>
      if ch == quote then
        if quote == '\'' && rest.headD nul == '\'' then go [ch] (c.advance 2) else .ok ([], c.forward)
      else if ch == '\\' && quote == '"' then
        match escaped limit c.forward with
        | .error fault => .error fault
        | .ok (piece, c) => go piece c
      else if isGap ch then
        match quotedGap limit c with
        | .error fault => .error fault
        | .ok (piece, c) => go piece c
      else go [ch] c.forward

end Curfew.Yaml
