import Phrasebook.Calendar.Rfc3339
import Phrasebook.Text.Blank

/-! # Local date and time texts

    A date and a time of day without an offset, `2024-03-05T14:07:09`, taken at
    the meridian. Fields need not be padded: each may have fewer digits than its
    width and blanks in front of it. A year with a sign may have any number of
    digits. There is no fraction of a second.
-/

namespace Phrasebook.Moment

open Text

/-- Read a number of at least one digit and at most so many. -/
def digitsUpTo? (width : Nat) (cs : List Char) : Option (Nat × List Char) :=
  let ds := (cs.take width).takeWhile Char.isDigit
  (natural? ds).map fun n => (n, cs.drop ds.length)

/-- Read a year: a sign and any number of digits, or up to four digits. -/
def localYear? (cs : List Char) : Option (Int × List Char) :=
  match cs.dropWhile isBlank with
  | '-' :: cs => (digitsUpTo? cs.length cs).map fun (n, cs) => (-(n : Int), cs)
  | '+' :: cs => (digitsUpTo? cs.length cs).map fun (n, cs) => ((n : Int), cs)
  | cs => (digitsUpTo? 4 cs).map fun (n, cs) => ((n : Int), cs)

/-- Read a field of one or two digits. -/
def localField? (cs : List Char) : Option (Nat × List Char) :=
  digitsUpTo? 2 (cs.dropWhile isBlank)

def localDate? (cs : List Char) : Option (Date × List Char) := do
  let (year, cs) ← localYear? cs
  let cs ← mark? ['-'] cs
  let (month, cs) ← localField? cs
  let cs ← mark? ['-'] cs
  let (day, cs) ← localField? cs
  return (← Date.of? year month day, cs)

def localTime? (cs : List Char) : Option (TimeOfDay × List Char) := do
  let (hour, cs) ← localField? cs
  let cs ← mark? [':'] cs
  let (minute, cs) ← localField? cs
  let cs ← mark? [':'] cs
  let (second, cs) ← localField? cs
  return (← timeOf? hour minute second 0, cs)

/-- The moment that a text denotes. Nothing may stand behind the second. -/
def ofLocalChars? (cs : List Char) : Option Moment := do
  let (date, cs) ← localDate? cs
  let cs ← mark? ['T'] cs
  let (time, cs) ← localTime? cs
  if cs.isEmpty then return ⟨date, time, .zero⟩ else none

end Phrasebook.Moment
