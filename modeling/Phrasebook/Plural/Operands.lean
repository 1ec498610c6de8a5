import Phrasebook.Number.Quantity

/-! # Plural operands

    What plural rules look at in a number: its value, its integer part, and the
    fraction digits that it shows. The sign does not count.
-/

namespace Phrasebook

/-- The parts of a number that plural rules compare. -/
structure Operands where
  /-- The integer part. -/
  whole : Nat
  /-- How many fraction digits are shown. -/
  places : Nat
  /-- The shown fraction digits as a number. -/
  fraction : Nat
  deriving DecidableEq, Repr

namespace Operands

/-- At most so many fraction digits take part in plural rules. -/
def maxPlaces : Nat := 18

def ofInt (n : Int) : Operands :=
  ⟨n.natAbs, 0, 0⟩

/-- The operands of a displayed decimal. All digits before the point take part. -/
def ofDecimal (d : Decimal) : Operands :=
  let places := min d.scale maxPlaces
  ⟨d.whole, places, d.fraction / 10 ^ (d.scale - places)⟩

/-- The operands of a quantity: those of its integer if it is one, else what is seen of
    the digits that it shows; none beyond the finite numbers. -/
def ofQuantity? (ofDigits : Decimal → Operands) (q : Quantity) : Option Operands :=
  match q.integer? with
  | some n => some (ofInt n.toInt)
  | none => q.decimal?.map ofDigits

end Operands

end Phrasebook
