import Curfew.CommandLine.Misuse
import Curfew.Text.Similar

/-!
The words of a command line as options and arguments.

A long name stands alone in a word, its value behind an equals sign or in the next word. Short names
share a word, and the value of the last one is the rest of the word or the next word. Two dashes end the
options.
-/

namespace Curfew.CommandLine

/-- An option: what it stands for, its names, and whether it takes a value. -/
structure Switch (κ : Type) where
  key : κ
  names : List String
  takesValue : Bool := false

/-- An option that was given, with its value if it takes one. -/
structure Use (κ : Type) where
  switch : Switch κ
  value : Option String

/-- What a command line gives: options in their order, and the other words. -/
structure Given (κ : Type) where
  uses : List (Use κ)
  words : List String

namespace Switch

variable {κ : Type}

/-- Whether a name is a dash and one more character. -/
def isShort (name : String) : Bool := name.toList.length == 2

/-- The names of an option in quotes, as messages show them. -/
def shownNames (s : Switch κ) : String :=
  String.intercalate " / " (s.names.map fun name => "'" ++ name ++ "'")

def longNames (switches : List (Switch κ)) : List String :=
  (switches.flatMap Switch.names).filter fun name => !isShort name

/-- The option of a name that is short or is not. -/
def named? (switches : List (Switch κ)) (short : Bool) (name : String) : Option (Switch κ) :=
  if isShort name = short then switches.find? fun s => s.names.contains name else none

end Switch

/-- What one word gives: options, and the last one by its name if its value is the next word. -/
structure Reading (κ : Type) where
  uses : List (Use κ)
  awaiting : Option (Switch κ × String)

namespace Reading

variable {κ : Type}

/-- The options of the characters behind a dash. -/
def ofShort (switches : List (Switch κ)) : List Char → Except Misuse (Reading κ)
  | [] => .ok ⟨[], none⟩
  | c :: rest =>
    let name := String.ofList ['-', c]
    match Switch.named? switches true name with
    | none => .error (.unknownOption name [])
    | some s =>
      if s.takesValue then
        .ok (if rest.isEmpty then ⟨[], some (s, name)⟩ else ⟨[⟨s, some (String.ofList rest)⟩], none⟩)
      else (ofShort switches rest).map fun r => { r with uses := ⟨s, none⟩ :: r.uses }

/-- A word before and behind its first equals sign. -/
def splitValue (cs : List Char) : String × Option String :=
  let name := String.ofList (cs.takeWhile (· ≠ '='))
  match cs.dropWhile (· ≠ '=') with
  | [] => (name, none)
  | _ :: value => (name, some (String.ofList value))

/-- The options of a word that begins with a dash. -/
def ofWord (switches : List (Switch κ)) (word : String) : Except Misuse (Reading κ) :=
  let (name, value) := splitValue word.toList
  match Switch.named? switches false name with
  | some s =>
    match s.takesValue, value with
    | true, none => .ok ⟨[], some (s, name)⟩
    | false, some _ => .error (.takesNoValue name)
    | _, _ => .ok ⟨[⟨s, value⟩], none⟩
  | none =>
    if word.toList.take 2 = ['-', '-'] then
      .error (.unknownOption name (Text.Similar.closest name (Switch.longNames switches)))
    else ofShort switches (word.toList.drop 1)

end Reading

namespace Given

variable {κ : Type}

def empty : Given κ := ⟨[], []⟩

/-- What is given with more options before. -/
def withUses (uses : List (Use κ)) (g : Given κ) : Given κ := { g with uses := uses ++ g.uses }

/-- What is given with one more word before. -/
def withWord (word : String) (g : Given κ) : Given κ := { g with words := word :: g.words }

/-- Whether a word gives options: it begins with a dash and goes on. -/
def isOption (word : String) : Bool :=
  match word.toList with
  | '-' :: _ :: _ => true
  | _ => false

/-- What words give. Options may stand anywhere, or only before the first other word. -/
def ofWords (switches : List (Switch κ)) (anywhere : Bool) : List String → Except Misuse (Given κ)
  | [] => .ok empty
  | word :: rest =>
    if word = "--" then .ok ⟨[], rest⟩
    else if isOption word then do
      let r ← Reading.ofWord switches word
      match r.awaiting with
      | none => return (← ofWords switches anywhere rest).withUses r.uses
      | some (s, name) =>
        match rest with
        | [] => throw (.needsValue name)
        | value :: rest =>
          return (← ofWords switches anywhere rest).withUses (r.uses ++ [⟨s, some value⟩])
    else if anywhere then return (← ofWords switches anywhere rest).withWord word
    else .ok ⟨[], word :: rest⟩

/-- The options with one more, which takes the place of the same one given before. -/
def settle [DecidableEq κ] (uses : List (Use κ)) (use : Use κ) : List (Use κ) :=
  if uses.any fun u => u.switch.key = use.switch.key then
    uses.map fun u => if u.switch.key = use.switch.key then use else u
  else uses ++ [use]

/-- The options without repetition: each in the place of its first use with the value of its last. -/
def settled [DecidableEq κ] (g : Given κ) : List (Use κ) := g.uses.foldl settle []

def has [DecidableEq κ] (g : Given κ) (key : κ) : Bool := g.uses.any fun u => u.switch.key = key

end Given

end Curfew.CommandLine
