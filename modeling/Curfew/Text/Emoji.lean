import Curfew.Text.Blank
import Curfew.Text.Emoji.Table

/-!
Emoji by their names.

A name between two colons stands for its emoji. Behind a hyphen it may say whether the emoji is to look
like text or like a picture. What is no name stays as it is, its colons included.
-/

namespace Curfew.Text.Emoji

/-- The emoji with their names. -/
def named : List (List Char × List Char) :=
  ((splitAt ' ' (table.toList.map fun c => if isBlank c then ' ' else c)).filter (!·.isEmpty)).map
    fun entry => (entry.takeWhile (· ≠ '='), (entry.dropWhile (· ≠ '=')).drop 1)

/-- A letter of a name in lower case. -/
def lower (c : Char) : Char :=
  let n := c.toNat
  if ('A' ≤ c ∧ c ≤ 'Z') ∨ (0xc0 ≤ n ∧ n ≤ 0xde ∧ n ≠ 0xd7) then Char.ofNat (n + 0x20)
  else if c = '\u212a' then 'k'
  else if c = '\u212b' then 'å'
  else c

/-- The marks that choose a look, by the words behind the hyphen. -/
def looks : List (List Char × Char) :=
  [(['-', 't', 'e', 'x', 't'], '\ufe0e'), (['-', 'e', 'm', 'o', 'j', 'i'], '\ufe0f')]

/-- The name between two colons and the mark of the look that it asks for. -/
def splitLook (cs : List Char) : List Char × List Char :=
  match looks.find? fun look => cs.drop (cs.length - look.1.length) = look.1 with
  | some look => (cs.take (cs.length - look.1.length), [look.2])
  | none => (cs, [])

/-- The emoji that stands for the text between two colons. -/
def find? (cs : List Char) : Option (List Char) :=
  let (name, look) := splitLook cs
  (named.lookup (name.map lower)).map (· ++ look)

/-- How many characters stand before the next colon, if no blank is among them. -/
def nameLength? (cs : List Char) : Option Nat :=
  let name := cs.takeWhile fun c => c ≠ ':' ∧ !isBlank c
  if (cs.drop name.length).head? = some ':' then some name.length else none

/-- The text with its emoji, when so many characters more belong to a name. -/
def replaced : Nat → List Char → List Char
  | _, [] => []
  | skip + 1, _ :: cs => replaced skip cs
  | 0, c :: cs =>
    match if c = ':' then nameLength? cs else none with
    | some length =>
      (find? (cs.take length)).getD (c :: cs.take (length + 1)) ++ replaced (length + 1) cs
    | none => c :: replaced 0 cs

/-- The text with an emoji for each name of one. -/
def replace (cs : List Char) : List Char := replaced 0 cs

end Curfew.Text.Emoji
