import Phrasebook.Decimal.Shortest

/-! # Quantities

    A number that a message counts or shows: an integer of 64 bits, which stays
    exact, or a binary number, which shows its shortest digits.
-/

namespace Phrasebook

/-- A number given to a message. -/
inductive Quantity where
  | integer (n : Int64)
  | real (x : Binary64)
  deriving DecidableEq

namespace Quantity

/-- The quantity less an offset. Integers stop at the ends of their range; an
    offset of zero changes nothing. -/
def minus (q : Quantity) (offset : Int64) : Quantity :=
  if offset = 0 then q
  else
    match q with
    | integer n => .integer (.ofIntClamp (n.toInt - offset.toInt))
    | real x => .real (x.sub (.ofInt offset.toInt))

def toBinary64 : Quantity → Binary64
  | integer n => .ofInt n.toInt
  | real x => x

/-- The integer of 64 bits that a quantity is, if it is one. -/
def integer? : Quantity → Option Int64
  | integer n => some n
  | real x => x.integer?.bind Text.word?

/-- The nearest integer, a half going away from zero, if it has 64 bits. -/
def rounded? : Quantity → Option Int64
  | integer n => some n
  | real x => x.nearestInteger?.bind Text.word?

/-- The digits that a quantity shows; none beyond the finite numbers. -/
def decimal? : Quantity → Option Decimal
  | integer n => some (.ofInt n.toInt)
  | real x => x.toDecimal?

def text : Quantity → String
  | integer n => Text.integerText n.toInt
  | real x => x.text

end Quantity

end Phrasebook
