import Phrasebook.Power

/-! # Binary floating-point numbers of 64 bits

    A finite number is a whole count of units of `2^-1074`: a mantissa below
    `2^53` shifted left by a scale. Every sum, product and quotient in this
    library is computed exactly on such counts and then rounded once, so no
    machine float takes part.
-/

namespace Phrasebook

/-- The units in the number one: a unit is `2^-1074`, the least positive number. -/
def Binary64.one : Nat := 2 ^ 1074

/-- The one way to write a finite magnitude: the mantissa fills its 53 bits
    unless the scale is already the least one. -/
def Binary64.Canonical (mantissa scale : Nat) : Prop :=
  mantissa < 2 ^ 53 ∧ scale ≤ 2045 ∧ (2 ^ 52 ≤ mantissa ∨ scale = 0)

instance (mantissa scale : Nat) : Decidable (Binary64.Canonical mantissa scale) :=
  inferInstanceAs (Decidable (_ ∧ _ ∧ _))

/-- A binary floating-point number of 64 bits. -/
inductive Binary64 where
  /-- Not a number. -/
  | nan
  /-- Beyond every finite number, on one side. -/
  | infinity (negative : Bool)
  /-- `mantissa * 2 ^ scale` units, with a sign that zero has too. -/
  | finite (negative : Bool) (mantissa scale : Nat) (canonical : Binary64.Canonical mantissa scale)
  deriving DecidableEq

namespace Binary64

def zero (negative : Bool) : Binary64 :=
  .finite negative 0 0 (by decide)

instance : Inhabited Binary64 := ⟨zero false⟩

def isFinite : Binary64 → Bool
  | finite .. => true
  | _ => false

/-- The magnitude of a finite number, in units; none for the others. -/
def units? : Binary64 → Option Nat
  | finite _ mantissa scale _ => some (mantissa * 2 ^ scale)
  | _ => none

/-- A finite number in units, with its sign; the two zeros agree. -/
def signedUnits? : Binary64 → Option Int
  | finite negative mantissa scale _ =>
    let u : Int := (mantissa * 2 ^ scale : Nat)
    some (if negative then -u else u)
  | _ => none

def neg : Binary64 → Binary64
  | nan => nan
  | infinity negative => .infinity !negative
  | finite negative mantissa scale h => .finite (!negative) mantissa scale h

def abs : Binary64 → Binary64
  | nan => nan
  | infinity _ => .infinity false
  | finite _ mantissa scale h => .finite false mantissa scale h

/-- Equality as numbers: the zeros are equal and not-a-number equals nothing. -/
def sameValue : Binary64 → Binary64 → Bool
  | infinity n, infinity m => n == m
  | x, y =>
    match x.signedUnits?, y.signedUnits? with
    | some a, some b => a == b
    | _, _ => false

/-- Strictly below zero, which minus zero is not. -/
def isBelowZero : Binary64 → Bool
  | nan => false
  | infinity negative => negative
  | finite negative mantissa _ _ => negative && mantissa != 0

def integer? (x : Binary64) : Option Int :=
  x.signedUnits?.bind fun u => if u % one = 0 then some (u / one) else none

/-- The nearest integer, a half going away from zero; none beyond the finite numbers. -/
def nearestInteger? : Binary64 → Option Int
  | finite negative mantissa scale _ =>
    let n : Int := ((mantissa * 2 ^ scale + one / 2) / one : Nat)
    some (if negative then -n else n)
  | _ => none

end Binary64

end Phrasebook
