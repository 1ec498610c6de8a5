/-! # Currencies

    The symbols of the common currencies, and how many digits of an amount stand
    behind the decimal separator. A currency that is not listed is shown by its
    code, with two digits.
-/

namespace Phrasebook

/-- How amounts of a currency are shown. -/
structure Currency where
  /-- The sign for the currency. -/
  symbol : String
  /-- The digits behind the decimal separator. -/
  places : Nat
  deriving DecidableEq, Repr

namespace Currency

/-- The listed currencies, by code. -/
def table : List (String × Currency) :=
  [("USD", ⟨"$", 2⟩), ("EUR", ⟨"€", 2⟩), ("GBP", ⟨"£", 2⟩), ("JPY", ⟨"¥", 0⟩),
    ("CNY", ⟨"CN¥", 2⟩), ("INR", ⟨"₹", 2⟩), ("KRW", ⟨"₩", 0⟩), ("CAD", ⟨"CA$", 2⟩),
    ("AUD", ⟨"A$", 2⟩)]

def ofCode (code : String) : Currency :=
  (table.lookup code).getD ⟨code, 2⟩

def normalCode (code : String) : String :=
  String.ofList (code.toList.map Char.toUpper)

end Currency

end Phrasebook
