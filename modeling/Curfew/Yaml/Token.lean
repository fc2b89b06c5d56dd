import Curfew.Yaml.Block
import Curfew.Yaml.Plain
import Curfew.Yaml.Source
import Curfew.Yaml.Word

/-!
The tokens of a YAML text.

Indentation becomes tokens that open and close blocks. That a token is the key of a mapping shows only
at the colon behind it, so tokens wait in a queue until it is clear that no mark of a key comes in front
of them. No more of the text is read than that needs: a fault further on comes up later, or never.
-/

namespace Curfew.Yaml

inductive Token where
  | streamEnd
  | directive (d : Directive)
  | documentStart
  | documentEnd
  | blockSequence
  | blockMapping
  | blockEnd
  | flowSequence
  | flowSequenceEnd
  | flowMapping
  | flowMappingEnd
  | blockEntry
  | flowEntry
  | key
  | value
  | alias (name : List Char)
  | anchor (name : List Char)
  | tag (word : TagWord)
  | scalar (text : List Char) (isPlain : Bool)
deriving DecidableEq

/-- A token that may turn out to begin a key, and where it stands. -/
structure Candidate where
  slot : Nat
  /-- Only a key may stand here. -/
  required : Bool
  index : Nat
  line : Nat
  column : Nat
deriving DecidableEq

/-- How far a text has been read. -/
structure Progress where
  cursor : Cursor
  /-- The tokens that wait, the next one first. -/
  queue : List Token
  /-- How many tokens were taken from the queue. -/
  taken : Nat
  /-- The columns of the open blocks from the innermost. -/
  columns : List Nat
  /-- Whether a key may begin at the cursor. -/
  allowsKey : Bool
  /-- The candidate of this level of brackets. -/
  candidate : Option Candidate
  /-- The candidates of the levels around it from the innermost. -/
  outer : List (Option Candidate)
  /-- Whether the end of the text was read. -/
  finished : Bool
  /-- The fault that comes up at the end of a text that is not all there. -/
  cut : Option Fault
  /-- More than the number of characters, and so of rounds that any loop over the text makes. -/
  limit : Nat

abbrev Reading := StateT Progress (Except Fault)

namespace Progress

def start (source : Source) : Progress :=
  { cursor := .ofChars source.chars, queue := [], taken := 0, columns := [], allowsKey := true,
    candidate := none, outer := [], finished := false, cut := source.cut
    limit := source.chars.length + 2 }

/-- Whether the cursor stands between brackets. -/
def inFlow (p : Progress) : Bool := !p.outer.isEmpty

/-- The least column of what belongs to the innermost block. -/
def floor (p : Progress) : Nat :=
  match p.columns with
  | [] => 0
  | column :: _ => column + 1

def push (token : Token) (p : Progress) : Progress := { p with queue := p.queue ++ [token] }

/-- Puts tokens in front of the one with a number. -/
def insert (slot : Nat) (tokens : List Token) (p : Progress) : Progress :=
  let ahead := slot - p.taken
  { p with queue := p.queue.take ahead ++ tokens ++ p.queue.drop ahead }

/-- Closes the blocks whose column is no less than the floor. -/
def closeBlocks (floor : Nat) : List Nat → Progress → Progress
  | column :: columns, p =>
    if floor ≤ column then closeBlocks floor columns ({ p with columns }.push .blockEnd) else p
  | [], p => p

/-- Opens a block at a column unless it is open already. -/
def opens (column : Nat) (p : Progress) : Bool := p.floor ≤ column

def openBlock (column : Nat) (p : Progress) : Progress := { p with columns := column :: p.columns }

/-- The next token as a candidate. -/
def candidateHere (p : Progress) : Candidate :=
  let c := p.cursor
  { slot := p.taken + p.queue.length
    required := !p.inFlow && p.columns.head? == some c.column
    index := c.index, line := c.line, column := c.column }

/-- A key ends on its line and within so many characters. -/
def longestKey : Nat := 1024

def isStale (c : Cursor) (k : Candidate) : Bool :=
  k.line != c.line || c.index > k.index + longestKey

/-- Whether the next token is a candidate, so that tokens may still come in front of it. -/
def awaitsKey (p : Progress) : Bool :=
  (p.candidate :: p.outer).any fun candidate => candidate.map (·.slot) == some p.taken

end Progress

namespace Reading

def fail {α : Type} : Reading α := throw .malformed

/-- Forgets the candidate of this level; it must not be a required one. -/
def dropCandidate : Reading Unit := do
  if ((← get).candidate.map (·.required)).getD false then fail
  modify fun p => { p with candidate := none }

/-- A candidate that can still become a key. -/
def refresh (c : Cursor) : Option Candidate → Reading (Option Candidate)
  | none => return none
  | some k =>
    if Progress.isStale c k then if k.required then fail else return none
    else return some k

/-- Forgets the candidates that can no longer become keys. -/
def refreshAll : Reading Unit := do
  let p ← get
  let outer ← p.outer.mapM (refresh p.cursor)
  let candidate ← refresh p.cursor p.candidate
  set { p with candidate, outer }

/-- The next token may begin a key. -/
def noteCandidate : Reading Unit := do
  if (← get).allowsKey then
    dropCandidate
    modify fun p => { p with candidate := some p.candidateHere }

def allowKey (allows : Bool) : Reading Unit := modify fun p => { p with allowsKey := allows }

def push (token : Token) : Reading Unit := modify (Progress.push token)

/-- Gives a token of so many characters. -/
def mark (token : Token) (width : Nat) : Reading Unit :=
  modify fun p => { p with cursor := p.cursor.advance width }.push token

/-- Closes the blocks that content at a column does not belong to; brackets keep all open. -/
def closeBlocks (floor : Nat) : Reading Unit :=
  modify fun p => if p.inFlow then p else p.closeBlocks floor p.columns

/-- Goes on from what a function reads at the cursor. -/
def take {α : Type} (f : Cursor → Except Fault (α × Cursor)) : Reading α := do
  let p ← get
  let (a, cursor) ← (f p.cursor : Except Fault (α × Cursor))
  set { p with cursor }
  return a

/-! ### Between tokens -/

/-- Passes over blanks, comments and line ends. A new line may begin with a key. -/
def skipGap : Nat → Reading Unit
  | 0 => fail
  | fuel + 1 => do
    let p ← get
    let c := p.cursor.skipSpaces.skipComment
    if isBreak c.peek then
      set { p with cursor := c.lineBreak.2, allowsKey := p.allowsKey || !p.inFlow }
      skipGap fuel
    else set { p with cursor := c }

/-- Passes over the mark that may stand in front of a text. -/
def skipByteOrderMark : Reading Unit := modify fun p =>
  if p.cursor.index = 0 && p.cursor.peek == byteOrderMark then { p with cursor := p.cursor.forward }
  else p

/-! ### Tokens -/

def streamEnd : Reading Unit := do
  closeBlocks 0
  dropCandidate
  push .streamEnd
  modify fun p => { p with finished := true }

def directive (limit : Nat) : Reading Unit := do
  closeBlocks 0
  dropCandidate
  allowKey false
  push (.directive (← take (directiveAt limit)))

def boundary (token : Token) : Reading Unit := do
  closeBlocks 0
  dropCandidate
  allowKey false
  mark token 3

def openFlow (token : Token) : Reading Unit := do
  noteCandidate
  modify fun p => { p with candidate := none, outer := p.candidate :: p.outer, allowsKey := true }
  mark token 1

def closeFlow (token : Token) : Reading Unit := do
  dropCandidate
  modify fun p =>
    match p.outer with
    | [] => p
    | candidate :: outer => { p with candidate, outer }
  allowKey false
  mark token 1

def flowEntry : Reading Unit := do
  allowKey true
  dropCandidate
  mark .flowEntry 1

/-- Opens a block at the cursor where one may begin. -/
def openBlock (token : Token) : Reading Unit := do
  let p ← get
  unless p.inFlow do
    unless p.allowsKey do fail
    if p.opens p.cursor.column then set ((p.openBlock p.cursor.column).push token)

def blockEntry : Reading Unit := do
  openBlock .blockSequence
  allowKey true
  dropCandidate
  mark .blockEntry 1

def key : Reading Unit := do
  openBlock .blockMapping
  allowKey !(← get).inFlow
  dropCandidate
  mark .key 1

/-- The candidate of this level is a key. -/
def confirm (k : Candidate) : Reading Unit := modify fun p =>
  let p := if !p.inFlow && p.opens k.column then
      (p.openBlock k.column).insert k.slot [.blockMapping, .key]
    else p.insert k.slot [.key]
  { p with candidate := none, allowsKey := false }

def value : Reading Unit := do
  match (← get).candidate with
  | some k => confirm k
  | none =>
    openBlock .blockMapping
    allowKey !(← get).inFlow
    dropCandidate
  mark .value 1

/-- A token that may begin a key. -/
def content (f : Cursor → Except Fault (Token × Cursor)) : Reading Unit := do
  noteCandidate
  allowKey false
  push (← take f)

def block (folded : Bool) (limit : Nat) : Reading Unit := do
  allowKey true
  dropCandidate
  let floor := (← get).floor
  push (.scalar (← take fun c => blockText folded floor limit c.forward) false)

def quoted (quote : Char) (limit : Nat) : Reading Unit :=
  content fun c => do
    let (text, c) ← quotedText quote limit limit c.forward
    return (.scalar text false, c)

def plain (limit : Nat) : Reading Unit := do
  noteCandidate
  let p ← get
  let (text, ended, cursor) := plainText p.inFlow p.floor limit limit [] false p.cursor
  set ({ p with cursor, allowsKey := ended }.push (.scalar text true))

/-- Reads one token, with those that the place of the cursor calls for. -/
def token : Reading Unit := do
  let limit := (← get).limit
  skipByteOrderMark
  skipGap limit
  refreshAll
  let c := (← get).cursor
  closeBlocks (c.column + 1)
  let p ← get
  let gapNext := isGap (c.peekAt 1)
  if c.atEnd then streamEnd
  else match c.peek with
    | '[' => openFlow .flowSequence
    | '\x7b' => openFlow .flowMapping
    | ']' => closeFlow .flowSequenceEnd
    | '\x7d' => closeFlow .flowMappingEnd
    | ',' => flowEntry
    | '*' => content fun c => do
      let (name, c) ← anchorAt c
      return (.alias name, c)
    | '&' => content fun c => do
      let (name, c) ← anchorAt c
      return (.anchor name, c)
    | '!' => content fun c => do
      let (word, c) ← tagAt limit c
      return (.tag word, c)
    | '\'' => quoted '\'' limit
    | '"' => quoted '"' limit
    | ch =>
      if ch == '%' && c.column = 0 then directive limit
      else if c.column = 0 && c.showsMarks '-' then boundary .documentStart
      else if c.column = 0 && c.showsMarks '.' then boundary .documentEnd
      else if ch == '-' && gapNext then blockEntry
      else if ch == '?' && (p.inFlow || gapNext) then key
      else if ch == ':' && (p.inFlow || gapNext) then value
      else if ch == '|' && !p.inFlow then block false limit
      else if ch == '>' && !p.inFlow then block true limit
      else if startsPlain p.inFlow c then plain limit
      else fail

/-! ### Looking ahead -/

/-- What reading a token comes to, given what comes up at the end of the text. -/
def atCut (cut : Fault) : Except Fault (Unit × Progress) → Except Fault (Unit × Progress)
  | .error .unfinished => .error cut
  | .error fault => .error fault
  | .ok (u, p) => if p.cursor.atEnd then .error cut else .ok (u, p)

/-- Reads one token of a text that may be cut. -/
def fetch : Reading Unit := do
  match (← get).cut with
  | none => token
  | some cut => fun p => atCut cut (token.run p)

/-- Whether the next token is not read yet, or not sure to be the next one. -/
def needsMore : Reading Bool := do
  let p ← get
  if p.finished then return false
  else if p.queue.isEmpty then return true
  else
    refreshAll
    return (← get).awaitsKey

/-- Reads tokens until the next one is sure. -/
def settle : Nat → Reading Unit
  | 0 => fail
  | fuel + 1 => do
    if ← needsMore then
      fetch
      settle fuel

/-- The next token, which stays. -/
def peek : Reading Token := do
  settle (← get).limit
  match (← get).queue with
  | token :: _ => return token
  | [] => fail

/-- Takes the next token, which was looked at before. -/
def drop : Reading Unit := modify fun p => { p with queue := p.queue.tail, taken := p.taken + 1 }

end Reading

end Curfew.Yaml
