import Curfew.Yaml.Stamp

/-!
What a node is: its tag, and the tag of a plain scalar without one.

A plain scalar is what its text looks like: nothing, a truth value, a number, a time, a mark of merging,
or else a text.
-/

namespace Curfew.Yaml

inductive Tag where
  | null
  | bool
  | int
  | float
  | binary
  | timestamp
  | omap
  | pairs
  | set
  | text
  | list
  | map
  /-- The key whose value is merged into the mapping. -/
  | merge
  /-- The key of a mapping that stands for its value. -/
  | default
  | unknown
deriving DecidableEq

namespace Tag

/-- What the full names of the tags begin with. -/
def family : String := "tag:yaml.org,2002:"

/-- The tags by their names in the family. -/
def named : List (String × Tag) :=
  [("null", .null), ("bool", .bool), ("int", .int), ("float", .float), ("binary", .binary),
   ("timestamp", .timestamp), ("omap", .omap), ("pairs", .pairs), ("set", .set), ("str", .text),
   ("seq", .list), ("map", .map), ("merge", .merge), ("value", .default)]

/-- The tag of a full name. -/
def ofName (name : List Char) : Tag :=
  match named.find? fun entry => family.toList ++ entry.1.toList == name with
  | some entry => entry.2
  | none => .unknown

/-! ### Shapes of numbers -/

def dropSign (cs : List Char) : List Char :=
  match cs with
  | '+' :: rest => rest
  | '-' :: rest => rest
  | _ => cs

/-- Whether a text is not empty and all its characters are of a class. -/
def isRun (p : Char → Bool) (cs : List Char) : Bool := !cs.isEmpty && cs.all p

def isDecimalChar (c : Char) : Bool := c.isDigit || c == '_'

/-- A decimal number that may hold underscores behind its first digit. -/
def isDecimal (cs : List Char) : Bool :=
  match cs with
  | c :: rest => c.isDigit && rest.all isDecimalChar
  | [] => false

def isOctalChar (c : Char) : Bool := ('0' ≤ c && c ≤ '7') || c == '_'

def isBinaryChar (c : Char) : Bool := c == '0' || c == '1' || c == '_'

def isHexChar (c : Char) : Bool :=
  c.isDigit || ('a' ≤ c && c ≤ 'f') || ('A' ≤ c && c ≤ 'F') || c == '_'

/-- A number below sixty in one or two digits. -/
def isSixtieth (cs : List Char) : Bool :=
  match cs with
  | [a] => a.isDigit
  | [a, b] => '0' ≤ a && a ≤ '5' && b.isDigit
  | _ => false

/-- A number of base sixty: its places are parted by colons. -/
def isSexagesimal (cs : List Char) : Bool :=
  match Text.splitAt ':' cs with
  | first :: second :: rest => isDecimal first && (second :: rest).all isSixtieth
  | _ => false

def isInt (cs : List Char) : Bool :=
  match dropSign cs with
  | ['0'] => true
  | '0' :: 'b' :: rest => isRun isBinaryChar rest
  | '0' :: 'x' :: rest => isRun isHexChar rest
  | '0' :: rest => isRun isOctalChar rest
  | rest => isDecimal rest || isSexagesimal rest

/-- What may follow the digits behind a point: nothing, or an exponent with its sign. -/
def isExponent (cs : List Char) : Bool :=
  match cs with
  | [] => true
  | e :: sign :: rest =>
    (e == 'e' || e == 'E') && (sign == '+' || sign == '-') && isRun Char.isDigit rest
  | _ => false

def isInfinity (cs : List Char) : Bool :=
  cs = ".inf".toList || cs = ".Inf".toList || cs = ".INF".toList

def isNotANumber (cs : List Char) : Bool :=
  cs = ".nan".toList || cs = ".NaN".toList || cs = ".NAN".toList

/-- A number with a point in it, of base ten or sixty. -/
def isPointed (cs : List Char) : Bool :=
  let whole := cs.takeWhile (· != '.')
  match cs.dropWhile (· != '.') with
  | '.' :: rest =>
    let places := rest.dropWhile isDecimalChar
    (isDecimal whole && isExponent places) || (isSexagesimal whole && places.isEmpty)
  | _ => false

/-- A number that begins with its point. -/
def isFraction (cs : List Char) : Bool :=
  match cs with
  | '.' :: c :: rest => c.isDigit && isExponent (rest.dropWhile isDecimalChar)
  | _ => false

def isFloat (cs : List Char) : Bool :=
  isPointed (dropSign cs) || isFraction cs || isInfinity (dropSign cs) || isNotANumber cs

/-! ### Plain scalars -/

def truthWords : List String :=
  ["yes", "Yes", "YES", "no", "No", "NO", "true", "True", "TRUE", "false", "False", "FALSE",
   "on", "On", "ON", "off", "Off", "OFF"]

def nullWords : List String := ["~", "null", "Null", "NULL"]

def isWord (words : List String) (cs : List Char) : Bool := words.any fun word => word.toList == cs

/-- The marks of tags, anchors and aliases, which are no texts on their own. -/
def markWords : List String := ["!", "&", "*"]

/-- A text without the line break that ends it. -/
def dropLastBreak (cs : List Char) : List Char :=
  match cs.reverse with
  | '\n' :: rest => rest.reverse
  | _ => cs

/-- The tag that the text of a scalar calls for. -/
def ofText (cs : List Char) : Tag :=
  let word := dropLastBreak cs
  if isWord truthWords word then .bool
  else if isFloat word then .float
  else if isInt word then .int
  else if word = ['<', '<'] then .merge
  else if cs.isEmpty || isWord nullWords word then .null
  else if ((TimeText.ofChars? word).map TimeText.isPlain).getD false then .timestamp
  else if word = ['='] then .default
  else if isWord markWords word then .unknown
  else .text

end Tag

end Curfew.Yaml
