import Phrasebook.Binary64.Basic

/-! # Rounding and arithmetic

    Rounding a quotient to the nearest representable number, an exact tie going
    to the even mantissa, and the operations defined through it: the exact
    result first, then one rounding.
-/

namespace Phrasebook

/-- A quotient rounded to the nearest natural number, a half going to the even one. -/
def roundedQuotient (num den : Nat) : Nat :=
  let q := num / den
  let r := num % den
  if 2 * r < den then q
  else if den < 2 * r then q + 1
  else q + q % 2

/-- A count `num / den` rounded to `bits` significant bits: a mantissa and the
    number of places it is shifted left. A carry out of the mantissa moves into
    the shift. -/
def roundedBits (bits num den : Nat) : Nat × Nat :=
  -- how many bits are too many; zero when all of them fit
  let scale := (num / den).log2 + 1 - bits
  let mantissa := roundedQuotient num (den * 2 ^ scale)
  if mantissa = 2 ^ bits then (2 ^ (bits - 1), scale + 1) else (mantissa, scale)

namespace Binary64

/-- The number nearest to `num / den` units. Only a scale that is too large can
    make the rounded form fail to be canonical, so that case is the overflow. -/
def ofUnits (negative : Bool) (num den : Nat) : Binary64 :=
  let (mantissa, scale) := roundedBits 53 num den
  if h : Canonical mantissa scale then .finite negative mantissa scale h else .infinity negative

def ofRatio (negative : Bool) (num den : Nat) : Binary64 :=
  ofUnits negative (num * one) den

def ofInt (n : Int) : Binary64 :=
  ofRatio (n < 0) n.natAbs 1

/-- The number nearest to `num / den` among those of 24 significant bits, which
    are whole counts of `2^-149` and end below `2^128`. -/
def ofRatioSingle (negative : Bool) (num den : Nat) : Binary64 :=
  let (mantissa, scale) := roundedBits 24 (num * 2 ^ 149) den
  -- one unit of a single is 2 ^ (1074 - 149) units of a double
  if scale ≤ 253 then ofUnits negative (mantissa * 2 ^ scale * 2 ^ (1074 - 149)) 1
  else .infinity negative

/-- The difference. An exact zero is positive unless a positive zero is taken
    from a negative one. -/
def sub : Binary64 → Binary64 → Binary64
  | nan, _ => nan
  | _, nan => nan
  | infinity n, infinity m => if n = m then nan else .infinity n
  | infinity n, finite .. => .infinity n
  | finite .., infinity m => .infinity !m
  | finite n a s _, finite m b t _ =>
    let x : Int := (a * 2 ^ s : Nat)
    let y : Int := (b * 2 ^ t : Nat)
    let d := (if n then -x else x) - (if m then -y else y)
    if d = 0 then zero (a == 0 && n && !m) else ofUnits (d < 0) d.natAbs 1

def mul : Binary64 → Binary64 → Binary64
  | nan, _ => nan
  | _, nan => nan
  | infinity n, infinity m => .infinity (n != m)
  | infinity n, finite m b _ _ => if b = 0 then nan else .infinity (n != m)
  | finite n a _ _, infinity m => if a = 0 then nan else .infinity (n != m)
  | finite n a s _, finite m b t _ => ofUnits (n != m) (a * 2 ^ s * (b * 2 ^ t)) one

def div : Binary64 → Binary64 → Binary64
  | nan, _ => nan
  | _, nan => nan
  | infinity _, infinity _ => nan
  | infinity n, finite m _ _ _ => .infinity (n != m)
  | finite n _ _ _, infinity m => zero (n != m)
  | finite n a s _, finite m b t _ =>
    if b = 0 then (if a = 0 then nan else .infinity (n != m))
    else ofRatio (n != m) (a * 2 ^ s) (b * 2 ^ t)

end Binary64

end Phrasebook
