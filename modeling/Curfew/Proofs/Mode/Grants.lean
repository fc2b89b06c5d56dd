import Curfew.Proofs.Mode.Spelling
import Curfew.Proofs.Mode.Reading
import Mathlib.Data.Fintype.Powerset
import Mathlib.Data.Fintype.Option
import Mathlib.Data.Int.Bitwise

/-! Modes by their meaning. A mode grants each class of users a set of rights and has a special flag with each class, and
an expression has a meaning on such grants that says nothing of bits. Compiling on bits comes to that meaning. -/

namespace Curfew

/-- What a class of users may do with an entry. -/
inductive Right where
  | read
  | write
  | execute
deriving DecidableEq

instance : Fintype Right := ⟨{.read, .write, .execute}, fun r => by cases r <;> decide⟩

instance : Fintype Class := ⟨{.owner, .group, .others}, fun c => by cases c <;> decide⟩

/-- The rights of each class, and the flag that goes with it: set-user with the owner, set-group with the group and
sticky with the others. -/
structure Grants where
  rights : Class → Finset Right
  special : Class → Bool

/-- The permissions that wait to be applied to the acting classes. -/
structure Pending where
  rights : Finset Right
  setId : Bool
  sticky : Bool
deriving DecidableEq

namespace Pending

def empty : Pending := { rights := ∅, setId := false, sticky := false }

/-- Whether the special flag of a class is among the permissions. -/
def special (p : Pending) : Class → Bool
  | .others => p.sticky
  | _ => p.setId

/-- The permissions with a plain one more. -/
def add (p : Pending) : Permission → Pending
  | .read => { p with rights := insert .read p.rights }
  | .write => { p with rights := insert .write p.rights }
  | .execute => { p with rights := insert .execute p.rights }
  | .setId => { p with setId := true }
  | .sticky => { p with sticky := true }
  | _ => p

end Pending

/-! ### The meaning of expressions -/

def Operator.onRights : Operator → Finset Right → Finset Right → Finset Right
  | .add, old, given => old ∪ given
  | .remove, old, given => old \ given
  | .assign, _, given => given

def Operator.onFlag : Operator → Bool → Bool → Bool
  | .add, old, given => old || given
  | .remove, old, given => old && !given
  | .assign, _, given => given

/-- The classes that act for those named: each of them, or all where all or none are named. -/
def acting (who : List Who) : Finset Class := Finset.univ.filter fun c => who = [] ∨ .all ∈ who ∨ .only c ∈ who

namespace Grants

/-- Permissions are applied to the acting classes and to their flags. -/
def act (g : Grants) (acting : Finset Class) (operator : Operator) (p : Pending) : Grants where
  rights c := if c ∈ acting then operator.onRights (g.rights c) p.rights else g.rights c
  special c := if c ∈ acting then operator.onFlag (g.special c) (p.special c) else g.special c

/-- One more permission of an action. Plain ones wait, searching as execute where it makes sense. A copy first applies
what waits, then assigns the rights of its source, which an assignment keeps for what follows. -/
def gather (isDirectory : Bool) (acting : Finset Class) (operator : Operator) (s : Grants × Pending) : Permission → Grants × Pending
  | .copy source =>
    let applied := if s.2 = .empty then s.1 else s.1.act acting operator s.2
    let copied : Pending := { Pending.empty with rights := applied.rights source }
    (applied.act acting .assign copied, if operator = .assign then copied else .empty)
  | .search => if isDirectory ∨ ∃ c, .execute ∈ s.1.rights c then (s.1, s.2.add .execute) else s
  | p => (s.1, s.2.add p)

end Grants

def Action.means (isDirectory : Bool) (acting : Finset Class) (g : Grants) (a : Action) : Grants :=
  let s := a.permissions.foldl (Grants.gather isDirectory acting a.operator) (g, .empty)
  s.1.act acting a.operator s.2

def Clause.means (isDirectory : Bool) (g : Grants) (c : Clause) : Grants :=
  c.actions.foldl (Action.means isDirectory (acting c.who)) g

/-! ### Bits -/

def Right.place : Right → Nat
  | .read => 2
  | .write => 1
  | .execute => 0

def Class.place : Class → Nat
  | .owner => 6
  | .group => 3
  | .others => 0

/-- The bit of a right of a class, or of its special flag. -/
def Class.bit : Class → Option Right → Nat
  | c, some r => c.place + r.place
  | .owner, none => 11
  | .group, none => 10
  | .others, none => 9

theorem Class.bit_lt (c : Class) (q : Option Right) : c.bit q < 12 := by
  revert c q
  decide

theorem Class.exists_bit : ∀ k < 12, ∃ (c : Class) (q : Option Right), k = c.bit q := by
  decide

/-- Whether a class would get a right, or its special flag. -/
def Pending.holds (p : Pending) (c : Class) : Option Right → Bool
  | some r => decide (r ∈ p.rights)
  | none => p.special c

namespace Grants

/-- The grants of bits, from the lowest. -/
def ofBits (bit : Nat → Bool) : Grants where
  rights c := Finset.univ.filter fun r => bit (c.bit (some r)) = true
  special c := bit (c.bit none)

/-- The grants of the low bits of a number of any size and sign. -/
def ofInt (i : Int) : Grants := ofBits i.testBit

/-- Whether a class has a right, or its special flag is set. -/
def holds (g : Grants) (c : Class) : Option Right → Bool
  | some r => decide (r ∈ g.rights c)
  | none => g.special c

theorem eq_of_holds {g g' : Grants} (h : ∀ c q, g.holds c q = g'.holds c q) : g = g' := by
  have hrights : g.rights = g'.rights := funext fun c => Finset.ext fun r => by simpa [holds] using h c (some r)
  have hspecial : g.special = g'.special := funext fun c => h c none
  cases g
  cases g'
  simp_all

theorem holds_ofBits (bit : Nat → Bool) (c : Class) (q : Option Right) : (ofBits bit).holds c q = bit (c.bit q) := by
  cases q <;> simp [holds, ofBits]

end Grants

def Expression.means (isDirectory : Bool) (g : Grants) : Expression → Grants
  | .octal mode => .ofBits mode.getLsbD
  | .symbolic clauses => clauses.foldl (Clause.means isDirectory) g

namespace Mode

/-- What a mode grants. -/
def grants (m : Mode) : Grants := .ofBits m.getLsbD

theorem holds_grants (m : Mode) (c : Class) (q : Option Right) : m.grants.holds c q = m.getLsbD (c.bit q) :=
  Grants.holds_ofBits _ c q

theorem eq_of_bits {m n : Mode} (h : ∀ (c : Class) q, m.getLsbD (c.bit q) = n.getLsbD (c.bit q)) : m = n :=
  BitVec.eq_of_getLsbD_eq fun k hk => by
    obtain ⟨c, q, rfl⟩ := Class.exists_bit k hk
    exact h c q

/-- A mode is determined by what it grants. -/
theorem grants_injective {m n : Mode} (h : m.grants = n.grants) : m = n :=
  eq_of_bits fun c q => by rw [← holds_grants, ← holds_grants, h]

theorem getLsbD_ofInt (i : Int) {k : Nat} (hk : k < 12) : (ofInt i).getLsbD k = i.testBit k := by
  unfold ofInt
  cases i with
  | ofNat n =>
    rw [Int.ofNat_eq_natCast, BitVec.ofInt_natCast, BitVec.getLsbD_ofNat, decide_eq_true hk, Bool.true_and]
    rfl
  | negSucc n =>
    rw [BitVec.ofInt_negSucc_eq_not_ofNat, BitVec.getLsbD_not, BitVec.getLsbD_ofNat, decide_eq_true hk, Bool.true_and,
      Bool.true_and]
    rfl

theorem grants_ofInt (i : Int) : (ofInt i).grants = .ofInt i :=
  Grants.eq_of_holds fun c q => by
    rw [holds_grants, getLsbD_ofInt i (c.bit_lt q), Grants.ofInt, Grants.holds_ofBits]

theorem getLsbD_act {k : Nat} (hk : k < 12) (mode who : Mode) (operator : Operator) (permissions : Mode) :
    (mode.act who operator permissions).getLsbD k =
      if who.getLsbD k then operator.onFlag (mode.getLsbD k) (permissions.getLsbD k) else mode.getLsbD k := by
  cases operator <;> cases hw : who.getLsbD k <;>
    simp only [act, Operator.onFlag, BitVec.getLsbD_or, BitVec.getLsbD_and, BitVec.getLsbD_not, hw, decide_eq_true hk] <;> simp

end Mode

end Curfew
