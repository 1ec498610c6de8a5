import Phrasebook.Calendar.Moment
import Phrasebook.Text.Digits

/-! # Internet date and time texts

    The text of a moment as RFC 3339 writes it, and reading it back:
    `2024-03-05T14:07:09.5+01:00`. Years that do not have four digits are written
    with a sign and are not read. A leap second is second 60.
-/

namespace Phrasebook

open Text

namespace Offset

/-- The magnitude of an offset in minutes, thirty seconds counting as one. -/
def roundedMinutes (o : Offset) : Nat :=
  (o.seconds.natAbs + 30) / 60

def sign (o : Offset) : Char :=
  if o.seconds < 0 then '-' else '+'

/-- An offset as `+HH:MM`, with a given mark between hours and minutes. -/
def chars (mark : List Char) (o : Offset) : List Char :=
  o.sign :: zeroPadded 2 (o.roundedMinutes / 60) ++ mark ++ zeroPadded 2 (o.roundedMinutes % 60)

end Offset

namespace Moment

/-! ### Writing -/

/-- A year in four digits; one outside 0 to 9999 has a sign and at least four digits. -/
def yearChars (year : Int) : List Char :=
  if 0 ≤ year ∧ year ≤ 9999 then zeroPadded 4 year.natAbs
  else (if year < 0 then '-' else '+') :: zeroPadded 4 year.natAbs

/-- A fraction of a second in as many of 0, 3, 6 and 9 digits as it needs. -/
def fractionChars (nano : Nat) : List Char :=
  if nano = 0 then []
  else if nano % 1000000 = 0 then '.' :: zeroPadded 3 (nano / 1000000)
  else if nano % 1000 = 0 then '.' :: zeroPadded 6 (nano / 1000)
  else '.' :: zeroPadded 9 nano

def rfc3339Chars (m : Moment) : List Char :=
  yearChars m.date.year ++ '-' :: zeroPadded 2 m.date.month ++ '-' :: zeroPadded 2 m.date.day ++
    'T' :: zeroPadded 2 m.time.hour ++ ':' :: zeroPadded 2 m.time.minute ++
    ':' :: zeroPadded 2 m.time.shownSecond ++ fractionChars m.time.fraction ++
    m.offset.chars [':']

def rfc3339 (m : Moment) : String :=
  String.ofList m.rfc3339Chars

/-! ### Reading -/

/-- Read a number of exactly so many digits. -/
def field? (width : Nat) (cs : List Char) : Option (Nat × List Char) :=
  if (cs.take width).length < width then none
  else (natural? (cs.take width)).map fun n => (n, cs.drop width)

/-- Read one character out of a set. -/
def mark? (marks : List Char) : List Char → Option (List Char)
  | [] => none
  | c :: cs => if c ∈ marks then some cs else none

/-- Read the fraction of a second in nanoseconds; digits behind the ninth are dropped. -/
def nanos? : List Char → Option (Nat × List Char)
  | '.' :: cs => do
    let ds := cs.takeWhile Char.isDigit
    let n ← natural? (ds.take 9)
    -- the power is one when there are nine digits or more
    return (n * 10 ^ (9 - ds.length), cs.dropWhile Char.isDigit)
  | cs => some (0, cs)

/-- Read an offset up to the end of the text. -/
def offset? : List Char → Option Offset
  | ['Z'] => some .zero
  | ['z'] => some .zero
  | c :: cs => do
    -- a minus sign of its own, U+2212, is read too
    let west ← if c = '+' then some false else if c = '-' ∨ c = '\u2212' then some true else none
    let (hours, cs) ← field? 2 cs
    let cs ← mark? [':'] cs
    let (minutes, cs) ← field? 2 cs
    if cs.isEmpty ∧ minutes < 60 then
      let n : Int := ((hours * 60 + minutes) * 60 : Nat)
      Offset.of? (if west then -n else n)
    else none
  | [] => none

/-- The time of day with a second up to 60, the last being a leap second. -/
def timeOf? (hour minute second nano : Nat) : Option TimeOfDay :=
  if second = 60 then TimeOfDay.of? hour minute 59 (nano + 1000000000)
  else TimeOfDay.of? hour minute second nano

def date? (cs : List Char) : Option (Date × List Char) := do
  let (year, cs) ← field? 4 cs
  let cs ← mark? ['-'] cs
  let (month, cs) ← field? 2 cs
  let cs ← mark? ['-'] cs
  let (day, cs) ← field? 2 cs
  return (← Date.of? year month day, cs)

def time? (cs : List Char) : Option (TimeOfDay × List Char) := do
  let (hour, cs) ← field? 2 cs
  let cs ← mark? [':'] cs
  let (minute, cs) ← field? 2 cs
  let cs ← mark? [':'] cs
  let (second, cs) ← field? 2 cs
  let (nano, cs) ← nanos? cs
  return (← timeOf? hour minute second nano, cs)

/-- The moment that a text denotes. The letter between date and time may be
    small or a space. -/
def ofRfc3339Chars? (cs : List Char) : Option Moment := do
  let (date, cs) ← date? cs
  let cs ← mark? ['T', 't', ' '] cs
  let (time, cs) ← time? cs
  return ⟨date, time, ← offset? cs⟩

end Moment

end Phrasebook
