/-!
Wildcards: patterns for one name.

A star matches any text, a question mark any character, and a class in brackets one of its characters
or, behind an exclamation mark, one of all others. All else matches itself, a bracket that is not
closed included.
-/

namespace Curfew

/-- One part of a pattern. -/
inductive Wildcard where
  | star
  | any
  | literal (c : Char)
  /-- A character in one of the closed ranges, or in none of them. -/
  | oneOf (isNegated : Bool) (ranges : List (Char × Char))
deriving DecidableEq

namespace Wildcard

/-! ### Classes -/

/-- The text of a class cut at the hyphens that make ranges. Behind a hyphen the next two characters
hold none that does; one that ends the text is a plain character. -/
def cutRanges : Nat → List Char → List Char → List (List Char)
  | _, chunk, [] => [chunk.reverse]
  | skip + 1, chunk, c :: cs => cutRanges skip (c :: chunk) cs
  | 0, chunk, c :: cs =>
    if c = '-' then
      if cs.isEmpty then [('-' :: chunk).reverse] else chunk.reverse :: cutRanges 2 [] cs
    else cutRanges 0 (c :: chunk) cs

/-- Two neighbouring pieces of a class become one when the range between them is empty; its ends are
dropped. -/
def dropEmptyRange (piece : List Char) (pieces : List (List Char)) : List (List Char) :=
  match pieces with
  | next :: rest =>
    match piece.getLast?, next.head? with
    | some low, some high =>
      if high < low then (piece.dropLast ++ next.tail) :: rest else piece :: pieces
    | _, _ => piece :: pieces
  | [] => [piece]

/-- The characters of a class, each told apart from the hyphens that make ranges. -/
def marked : List (List Char) → List (Char × Bool)
  | [] => []
  | [piece] => piece.map (·, false)
  | piece :: pieces => piece.map (·, false) ++ ('-', true) :: marked pieces

/-- The ranges of a class; a character alone is a range of one. -/
def ranges : List (Char × Bool) → List (Char × Char)
  | (low, _) :: (_, true) :: (high, _) :: rest => (low, high) :: ranges rest
  | (c, _) :: rest => (c, c) :: ranges rest
  | [] => []

/-- How many characters at the start of a class no range can begin behind. -/
def classStart (cs : List Char) : Nat := if cs.head? = some '!' then 2 else 1

/-- The part that a class stands for; with nothing but an exclamation mark left it is any character. -/
def ofClass (cs : List Char) : Wildcard :=
  let pieces := (cutRanges (classStart cs) [] cs).foldr dropEmptyRange []
  match marked pieces with
  | [('!', false)] => .any
  | ('!', false) :: rest => .oneOf true (ranges rest)
  | all => .oneOf false (ranges all)

/-- The text of a class behind its opening bracket and what follows it. A closing bracket in front,
even behind an exclamation mark, is a character of the class. -/
def splitClass? (cs : List Char) : Option (List Char × List Char) :=
  let front := match cs with
    | '!' :: ']' :: _ => 2
    | '!' :: _ => 1
    | ']' :: _ => 1
    | _ => 0
  let rest := cs.drop front
  match rest.dropWhile (· != ']') with
  | [] => none
  | _ :: behind => some (cs.take front ++ rest.takeWhile (· != ']'), behind)

/-! ### Patterns -/

/-- The parts of a pattern; the number bounds how many there are. -/
def partsOf : Nat → List Char → List Wildcard
  | 0, _ => []
  | _, [] => []
  | fuel + 1, c :: cs =>
    if c = '*' then .star :: partsOf fuel cs
    else if c = '?' then .any :: partsOf fuel cs
    else if c = '[' then
      match splitClass? cs with
      | some (inner, rest) => ofClass inner :: partsOf fuel rest
      | none => .literal c :: partsOf fuel cs
    else .literal c :: partsOf fuel cs

/-- The parts of a pattern. -/
def ofText (pattern : String) : List Wildcard :=
  partsOf pattern.toList.length pattern.toList

/-- Whether a part matches one character. -/
def accepts (c : Char) : Wildcard → Bool
  | .star => true
  | .any => true
  | .literal d => c == d
  | .oneOf isNegated ranges => (ranges.any fun r => r.1 ≤ c && c ≤ r.2) != isNegated

/-- Given for a text and each text left when characters are taken from its front whether some parts
match it, the same for those parts behind one more. -/
def withPart (part : Wildcard) : List Char → List Bool → List Bool
  | c :: cs, here :: row =>
    let rest := withPart part cs row
    let found := match part with
      | .star => here || rest.headD false
      | _ => accepts c part && row.headD false
    found :: rest
  | [], [here] => [part = .star && here]
  | _, _ => []

/-- Whether parts match a text and each text left when characters are taken from its front. No parts
match the empty text alone. -/
def matchRow (cs : List Char) : List Wildcard → List Bool
  | [] => List.replicate cs.length false ++ [true]
  | part :: parts => withPart part cs (matchRow cs parts)

/-- Whether parts match a whole text. -/
def matchChars (parts : List Wildcard) (cs : List Char) : Bool := (matchRow cs parts).headD false

/-- Whether a pattern matches a name. -/
def matchName (pattern name : String) : Bool := matchChars (ofText pattern) name.toList

/-- Whether a text holds a character that makes it a pattern. -/
def isPattern (s : String) : Bool := s.toList.any fun c => c == '*' || c == '?' || c == '['

/-- Whether a name is one of those that patterns leave out. -/
def isHidden (name : String) : Bool := name.toList.head? = some '.'

end Wildcard

end Curfew
