import Phrasebook.Decimal.Basic

/-! # Scientific notation

    A decimal written as one digit, its further digits behind a point, and the
    power of ten by which that is multiplied. The power has a sign of either
    kind, and zeros at the end of the coefficient are not written.
-/

namespace Phrasebook

open Text

namespace Decimal

/-- The power of ten that the first digit of a decimal counts. -/
def exponent (d : Decimal) : Int :=
  (digits d.coefficient).length - 1 - d.scale

/-- The digits in front of the letter: a point follows the first one if there are more. -/
def significandChars (d : Decimal) : List Char :=
  match digits (withoutTrailingZeros d.coefficient) with
  | [] => []
  | [c] => [c]
  | c :: cs => c :: '.' :: cs

def scientificChars (d : Decimal) : List Char :=
  let sign := if d.negative then ['-'] else []
  let exponentSign := if d.exponent < 0 then '-' else '+'
  sign ++ d.significandChars ++ 'e' :: exponentSign :: digits d.exponent.natAbs

def scientificText (d : Decimal) : String :=
  String.ofList d.scientificChars

end Decimal

end Phrasebook
