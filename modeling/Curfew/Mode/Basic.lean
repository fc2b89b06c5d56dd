import Curfew.Text.Numeral

/-!
Permission modes as twelve bits.

From the highest: set-user, set-group and sticky, then read, write and execute of the owner, of the
group and of all others.
-/

namespace Curfew

/-- The permission bits of an entry. -/
abbrev Mode := BitVec 12

/-- The three classes of users that have permission bits of their own. -/
inductive Class where
  | owner
  | group
  | others
deriving DecidableEq

namespace Mode

/-- The low twelve bits of a number of any size and sign. -/
def ofInt (i : Int) : Mode := BitVec.ofInt 12 i

/-- The four octal digits of a mode. -/
def chars (m : Mode) : List Char := Text.paddedDigits 8 4 m.toNat

def text (m : Mode) : String := String.ofList m.chars

/-- The execute bits of all three classes. -/
def anyExecute : Mode := 0o111

def setUser : Mode := 0o4000

def setGroup : Mode := 0o2000

def groupExecute : Mode := 0o010

end Mode

/-- The bits of a class: its three permissions and the special bit that goes with it. -/
def Class.mask : Class → Mode
  | .owner => 0o4700
  | .group => 0o2070
  | .others => 0o1007

end Curfew
