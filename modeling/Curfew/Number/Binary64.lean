import Curfew.Text.Numeral

/-!
Double-precision numbers as exact values.

A finite number is `significand * 2 ^ exponent` with at most fifty-three bits of significand and no
exponent below -1074. Every operation is done on fractions of whole numbers and rounded once, to the
nearest number and to the even one of two.
-/

namespace Curfew

inductive Binary64 where
  | finite (negative : Bool) (significand : Nat) (exponent : Int)
  | infinite (negative : Bool)
  | nan
deriving DecidableEq, Inhabited

namespace Binary64

/-- How many bits a significand has. -/
def precision : Nat := 53

/-- The exponent of the smallest numbers. -/
def leastExponent : Int := -1074

/-- The exponent of the largest numbers. -/
def greatestExponent : Int := 971

def zero (negative : Bool) : Binary64 := .finite negative 0 leastExponent

/-- The numerator and denominator of a fraction divided by a power of two. -/
def scaleDown (numerator denominator : Nat) (exponent : Int) : Nat × Nat :=
  if exponent < 0 then (numerator * Nat.pow 2 exponent.natAbs, denominator)
  else (numerator, denominator * Nat.pow 2 exponent.natAbs)

/-- The quotient rounded to the nearest whole number, and to the even one of two. -/
def roundDiv (numerator denominator : Nat) : Nat :=
  let quotient := numerator / denominator
  let twice := 2 * (numerator % denominator)
  if twice > denominator || (twice == denominator && quotient % 2 == 1) then quotient + 1
  else quotient

/-- The exponent of the last bit that is kept of a fraction. -/
def exponentOf (numerator denominator : Nat) : Int :=
  let guess := (numerator.log2 : Int) - denominator.log2 - precision
  let (n, d) := scaleDown numerator denominator guess
  max leastExponent (if n / d < Nat.pow 2 precision then guess else guess + 1)

/-- The number nearest to a fraction. -/
def ofRatio (negative : Bool) (numerator denominator : Nat) : Binary64 :=
  if numerator = 0 then zero negative
  else
    let exponent := exponentOf numerator denominator
    let (n, d) := scaleDown numerator denominator exponent
    let rounded := roundDiv n d
    let (significand, exponent) :=
      if rounded = Nat.pow 2 precision then (Nat.pow 2 (precision - 1), exponent + 1)
      else (rounded, exponent)
    if exponent > greatestExponent then .infinite negative
    else .finite negative significand exponent

/-- The number nearest to `digits * 10 ^ scale`. -/
def ofDecimal (negative : Bool) (digits : Nat) (scale : Int) : Binary64 :=
  let magnitude := ((Text.digits 10 digits).length : Int) + scale
  if digits = 0 || magnitude < -326 then zero negative
  else if magnitude > 310 then .infinite negative
  else if scale < 0 then ofRatio negative digits (Nat.pow 10 scale.natAbs)
  else ofRatio negative (digits * Nat.pow 10 scale.natAbs) 1

def ofInt (i : Int) : Binary64 := ofRatio (i < 0) i.natAbs 1

/-- The multiple of the smallest number that a finite number is. -/
def units? : Binary64 → Option Int
  | .finite negative significand exponent =>
    let size := significand * Nat.pow 2 (exponent - leastExponent).toNat
    some (if negative then -size else size)
  | _ => none

/-- Whether a number is below zero, or a zero with a minus sign. -/
def isNegative : Binary64 → Bool
  | .finite negative _ _ => negative
  | .infinite negative => negative
  | .nan => false

/-- The rounded sum; two infinite numbers of different signs have none. -/
def add (a b : Binary64) : Binary64 :=
  match a, b with
  | .nan, _ | _, .nan => .nan
  | .infinite m, .infinite n => if m = n then .infinite m else .nan
  | .infinite m, _ => .infinite m
  | _, .infinite n => .infinite n
  | a, b =>
    let sum := a.units?.getD 0 + b.units?.getD 0
    ofRatio (sum < 0) sum.natAbs (Nat.pow 2 leastExponent.natAbs)

/-- The rounded product; an infinite number and zero have none. -/
def mul (a b : Binary64) : Binary64 :=
  let negative := a.isNegative != b.isNegative
  match a.units?, b.units? with
  | some m, some n => ofRatio negative (m * n).natAbs (Nat.pow 2 (2 * leastExponent.natAbs))
  | some m, none => if m = 0 || b = .nan then .nan else .infinite negative
  | none, some n => if n = 0 || a = .nan then .nan else .infinite negative
  | none, none => if a = .nan || b = .nan then .nan else .infinite negative

def negate : Binary64 → Binary64
  | .finite negative significand exponent => .finite (!negative) significand exponent
  | .infinite negative => .infinite (!negative)
  | .nan => .nan

/-- Equality of numbers: the zeros are equal, and what is no number equals nothing. -/
def same (a b : Binary64) : Bool :=
  match a, b with
  | .infinite m, .infinite n => m == n
  | .finite .., .finite .. => a.units? == b.units?
  | _, _ => false

/-- The whole number that a finite number is, if it is one. -/
def whole? (a : Binary64) : Option Int :=
  a.units?.bind fun units =>
    let one : Int := Int.ofNat (Nat.pow 2 leastExponent.natAbs)
    if units % one = 0 then some (units / one) else none

end Binary64

end Curfew
