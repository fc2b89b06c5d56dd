import Curfew.Number.Binary64
import Curfew.Time.When

/-!
Config and record values.

A value is what a document, a record or a filter may hold. Entries of a mapping keep the order in
which their keys first came; an equal key that comes again gives its value to the first.
-/

namespace Curfew

inductive Value where
  | null
  | bool (b : Bool)
  | int (i : Int)
  | float (x : Binary64)
  | text (s : String)
  | bytes (bs : List UInt8)
  | time (t : When)
  | list (items : List Value)
  | tuple (items : List Value)
  | set (items : List Value)
  | map (entries : List (Value × Value))
deriving Inhabited

/-- The keys of a mapping with their values, in the order of the keys. -/
abbrev Entries := List (Value × Value)

namespace Value

/-! ### Equality -/

/-- A truth value or number, as a whole number or a double. -/
inductive Number where
  | whole (i : Int)
  | double (x : Binary64)

def number? : Value → Option Number
  | .bool b => some (.whole (if b then 1 else 0))
  | .int i => some (.whole i)
  | .float x => some (.double x)
  | _ => none

/-- Equality of numbers across their kinds, without rounding. -/
def Number.same : Number → Number → Bool
  | .whole i, .whole j => i == j
  | .whole i, .double x => x.whole? == some i
  | .double x, .whole i => x.whole? == some i
  | .double x, .double y => x.same y

/-- Whether both values are numbers and equal ones. -/
def sameNumber (a b : Value) : Bool :=
  match a.number?, b.number? with
  | some m, some n => m.same n
  | _, _ => false

mutual

/-- Equality of values. Truth values count as the numbers one and zero, the order of a mapping or a
set does not count, and values of different kinds differ otherwise. -/
def same : Value → Value → Bool
  | .null, .null => true
  | .text a, .text b => a == b
  | .bytes a, .bytes b => a == b
  | .time a, .time b => a.same b
  | .list xs, .list ys => sameItems xs ys
  | .tuple xs, .tuple ys => sameItems xs ys
  | .set xs, .set ys => xs.length == ys.length && sameMembers xs ys
  | .map ps, .map qs => ps.length == qs.length && sameEntries ps qs
  | a, b => sameNumber a b

/-- Equality item by item. -/
def sameItems : List Value → List Value → Bool
  | [], [] => true
  | x :: xs, y :: ys => same x y && sameItems xs ys
  | _, _ => false

/-- Whether each of the first values is among the second. -/
def sameMembers : List Value → List Value → Bool
  | [], _ => true
  | x :: xs, ys => ys.any (fun y => same x y) && sameMembers xs ys

/-- Whether each of the first entries is among the second. -/
def sameEntries : List (Value × Value) → List (Value × Value) → Bool
  | [], _ => true
  | (k, v) :: ps, qs => qs.any (fun q => same k q.1 && same v q.2) && sameEntries ps qs

end

/-! ### Mappings -/

/-- The entries with a value put under a key, given when two keys are the same. -/
def putBy {κ ν : Type} (isSame : κ → κ → Bool) (key : κ) (value : ν) : List (κ × ν) → List (κ × ν)
  | [] => [(key, value)]
  | entry :: rest =>
    if isSame entry.1 key then (entry.1, value) :: rest else entry :: putBy isSame key value rest

/-- The entries with a value put under a key. -/
def put (key value : Value) (entries : Entries) : Entries := putBy same key value entries

/-- The entries that come of putting each pair in turn. -/
def entriesOf (pairs : List (Value × Value)) : Entries :=
  pairs.foldl (fun entries pair => put pair.1 pair.2 entries) []

/-- The value under a key. -/
def get? (key : Value) (entries : Entries) : Option Value :=
  (entries.find? fun entry => same entry.1 key).map (·.2)

/-- The value under a key that is a text. -/
def field? (name : String) (entries : Entries) : Option Value := get? (.text name) entries

/-- Whether a value may be the key of a mapping. -/
def isKey : Value → Bool
  | .list _ => false
  | .set _ => false
  | .map _ => false
  | _ => true

end Value

end Curfew
