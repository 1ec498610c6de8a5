import Phrasebook.Calendar.Directive
import Phrasebook.Calendar.Rfc3339
import Phrasebook.Locale.PatternNames

/-! # Date patterns

    Writing a moment by a date pattern: the directives of the pattern become
    pieces, with the names and the patterns of a locale filled in, and each piece
    is written from the moment.
-/

namespace Phrasebook

open Text

namespace Directive

/-! ### Patterns of the locale -/

/-- The pattern that a directive takes from the locale. Where there is no time
    of twelve hours, the time takes its place. -/
def localPattern? (names : PatternNames) : Directive → Option String
  | items _ => none
  | localDate => some names.date
  | localTime => some names.time
  | localDateTime => some names.dateTime
  | localDialTime => some (if names.dialTime = "" then names.time else names.dialTime)

/-- The pieces of a directive that takes nothing from the locale. -/
def ownItems : Directive → List MomentItem
  | items is => is
  | _ => []

def allItems (names : PatternNames) (d : Directive) : List MomentItem :=
  match d.localPattern? names with
  | none => d.ownItems
  | some pattern => ((readAll? pattern.toList).getD []).flatMap ownItems

end Directive

/-! ### Writing -/

/-- A number below 256 in two places. The tens of a number from 100 on are the
    characters behind the digit nine. -/
def twoPlaces (n : Nat) (padding : Padding) : List Char :=
  let tens := n / 10
  let ones := Char.ofNat ('0'.toNat + n % 10)
  match tens, padding with
  | 0, .none => [ones]
  | 0, .space => [' ', ones]
  | _, _ => [Char.ofNat ('0'.toNat + tens), ones]

/-- An integer filled up to a width, in which a sign counts. -/
def filled (width : Nat) (padding : Padding) (sign digits : List Char) : List Char :=
  match padding with
  | .none => sign ++ digits
  | .space => (sign ++ digits).leftpad width ' '
  | .zero => sign ++ digits.leftpad (width - sign.length) '0'

/-- A year in four places; a negative one and one of more than four digits have a
    sign and five places. -/
def yearPlaces (year : Int) (padding : Padding) : List Char :=
  if 0 ≤ year ∧ year ≤ 9999 then filled 4 padding [] (digits year.natAbs)
  else filled 5 padding [if year < 0 then '-' else '+'] (digits year.natAbs)

namespace Moment

def numberChars (m : Moment) (padding : Padding) : NumericField → List Char
  | .year => yearPlaces m.date.year padding
  | .century => twoPlaces (m.date.year / 100 % 256).toNat padding
  | .yearOfCentury => twoPlaces (m.date.year % 100).toNat padding
  | .isoYear => yearPlaces m.date.isoWeek.1 padding
  | .isoYearOfCentury => twoPlaces (m.date.isoWeek.1 % 100).toNat padding
  | .quarter => digits m.date.quarter
  | .month => twoPlaces m.date.month padding
  | .day => twoPlaces m.date.day padding
  | .ordinal => filled 3 padding [] (digits m.date.ordinal)
  | .weekday => digits m.date.weekday
  | .isoWeekday => digits m.date.isoWeekday
  | .sundayWeek => twoPlaces m.date.sundayWeek padding
  | .mondayWeek => twoPlaces m.date.mondayWeek padding
  | .isoWeek => twoPlaces m.date.isoWeek.2 padding
  | .hour => twoPlaces m.time.hour padding
  | .dialHour => twoPlaces m.time.dialHour padding
  | .minute => twoPlaces m.time.minute padding
  | .second => twoPlaces m.time.shownSecond padding
  | .nano => filled 9 padding [] (digits m.time.fraction)
  | .unixSeconds =>
    filled 9 padding (if m.unixSeconds < 0 then ['-'] else []) (digits m.unixSeconds.natAbs)

def offsetChars (o : Offset) (form : OffsetForm) : List Char :=
  let n := o.seconds.natAbs
  let clock := o.sign :: zeroPadded 2 (n / 3600) ++ ':' :: zeroPadded 2 (n / 60 % 60)
  match form with
  | .name => if n % 60 = 0 then clock else clock ++ ':' :: zeroPadded 2 (n % 60)
  | .plain => o.chars []
  | .colon => o.chars [':']
  | .seconds => clock ++ ':' :: zeroPadded 2 (n % 60)
  | .hours => o.sign :: zeroPadded 2 (n / 3600)

/-- A letter of the Latin-1 range in its small form. -/
def smallLetter (c : Char) : Char :=
  if 'À' ≤ c ∧ c ≤ 'Þ' ∧ c ≠ '×' then Char.ofNat (c.toNat + 32) else c.toLower

def itemChars (names : PatternNames) (m : Moment) : MomentItem → List Char
  | .text cs => cs
  | .number field padding => m.numberChars padding field
  | .shortWeekday => (names.shortWeekdays.getD m.date.weekday "").toList
  | .longWeekday => (names.weekdays.getD m.date.weekday "").toList
  | .shortMonth => (names.shortMonths.getD (m.date.month - 1) "").toList
  | .longMonth => (names.months.getD (m.date.month - 1) "").toList
  | .half small =>
    let name := (if m.time.isAfternoon then names.pm else names.am).toList
    if small then name.map smallLetter else name
  | .fraction =>
    match fractionChars m.time.fraction with
    | [] => []
    | _ :: ds => names.point :: ds
  | .fixedFraction places pointed =>
    (if pointed then [names.point] else []) ++
      zeroPadded places (m.time.fraction / 10 ^ (9 - places))
  | .offset form => offsetChars m.offset form
  | .internet => m.rfc3339Chars

/-- The text of a moment by a pattern; none if the pattern is refused. -/
def byPattern? (names : PatternNames) (pattern : String) (m : Moment) : Option String :=
  (Directive.readAll? pattern.toList).map fun ds =>
    String.ofList ((ds.flatMap (Directive.allItems names)).flatMap (m.itemChars names))

end Moment

end Phrasebook
