import Phrasebook.Text.Digits

/-! # Decimals

    A decimal as it is displayed: a sign, and a coefficient of which the last
    `scale` digits stand behind the point. Trailing zeros count, so `1.5` and
    `1.50` are two decimals of one value.
-/

namespace Phrasebook

open Text

/-- A displayed decimal number. -/
structure Decimal where
  /-- A minus sign is shown, also in front of a zero. -/
  negative : Bool
  /-- The digits without the point, as one number. -/
  coefficient : Nat
  /-- How many digits stand behind the point. -/
  scale : Nat
  deriving DecidableEq, Repr

namespace Decimal

def ofInt (n : Int) : Decimal :=
  ⟨n < 0, n.natAbs, 0⟩

/-- The part in front of the point. -/
def whole (d : Decimal) : Nat :=
  d.coefficient / 10 ^ d.scale

/-- The digits behind the point as one number. -/
def fraction (d : Decimal) : Nat :=
  d.coefficient % 10 ^ d.scale

def wholeDigits (d : Decimal) : List Char :=
  digits d.whole

/-- The digits behind the point, as many as the scale. -/
def fractionDigits (d : Decimal) : List Char :=
  if d.scale = 0 then [] else zeroPadded d.scale d.fraction

/-- The characters of a decimal: a minus sign, digits, and a point only before a fraction. -/
def chars (d : Decimal) : List Char :=
  let sign := if d.negative then ['-'] else []
  let point := if d.scale = 0 then [] else ['.']
  sign ++ d.wholeDigits ++ point ++ d.fractionDigits

def text (d : Decimal) : String :=
  String.ofList d.chars

end Decimal

end Phrasebook
