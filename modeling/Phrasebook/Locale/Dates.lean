import Phrasebook.Calendar.Moment
import Phrasebook.Locale.CalendarNames
import Phrasebook.Locale.Clocks
import Phrasebook.Locale.DateLayouts
import Phrasebook.Locale.Error
import Phrasebook.Locale.Style
import Phrasebook.Number.Numbering
import Phrasebook.Text.Digits

/-! # Dates and times in a locale

    The text of the date or the time of a moment at one of the standard lengths,
    with the layouts, the names and the digits of a locale.
-/

namespace Phrasebook

open Text

namespace LanguageTag

/-- The years for which dates are written at the standard lengths. -/
def maxYear : Int := 9999

/-- Locales that name the era of years without four digits. -/
def namesEra (tag : LanguageTag) : Bool :=
  "en" ∈ tag.dataNames

/-- Whether a year is written with its era: it has not four digits. -/
def showsEra (tag : LanguageTag) (year : Int) : Bool :=
  tag.namesEra && !(1000 ≤ year && year ≤ 9999)

/-- The year as it is written. With an era, the years before the year 1 are
    counted backwards from 1. -/
def yearChars (tag : LanguageTag) (year : Int) : List Char :=
  if tag.showsEra year && decide (year ≤ 0) then integerChars (1 - year) else integerChars year

def eraChars (tag : LanguageTag) (year : Int) : List Char :=
  if !tag.showsEra year then []
  else if 1 ≤ year then [' ', 'A', 'D']
  else [' ', 'B', 'C']

/-- A number of one or two digits, perhaps padded to two. -/
def fieldChars (numbering : NumberingSystem) (padded : Bool) (n : Nat) : List Char :=
  (zeroPadded (if padded then 2 else 1) n).map numbering.write

def pieceChars (tag : LanguageTag) (numbering : NumberingSystem) (d : Date) :
    DatePiece → List Char
  | .text s => s.toList
  | .day padded => fieldChars numbering padded d.day
  | .month padded => fieldChars numbering padded d.month
  | .shortMonth => (tag.calendarNames.shortMonths.getD (d.month - 1) "").toList
  | .longMonth => (tag.calendarNames.months.getD (d.month - 1) "").toList
  | .weekday => (tag.calendarNames.weekdays.getD d.weekday "").toList
  | .year => (tag.yearChars d.year).map numbering.write
  | .shortYear =>
    if 1950 ≤ d.year ∧ d.year ≤ 2049 then fieldChars numbering true (d.year % 100).toNat
    else (tag.yearChars d.year).map numbering.write

/-- The layout of a date in a style; a named style is not laid out by the locale
    and counts as medium. -/
def dateLayout (tag : LanguageTag) : TemporalStyle → List DatePiece
  | .short => tag.dateLayouts.short
  | .medium => tag.dateLayouts.medium
  | .long => tag.dateLayouts.long
  | .full => tag.dateLayouts.full
  | .named _ => tag.dateLayouts.medium

/-- The reason why a year has no date text. -/
def yearRangeReason (year : Int) : String :=
  "RangeError \x7b field: \"year\", value: " ++ integerText year ++ ", min: " ++
    integerText (-maxYear) ++ ", max: " ++ integerText maxYear ++ " \x7d"

/-- The text of a date at a standard length. -/
def dateText (tag : LanguageTag) (numbering : NumberingSystem) (style : TemporalStyle)
    (d : Date) : Except LocaleError String :=
  if -maxYear ≤ d.year ∧ d.year ≤ maxYear then
    .ok (String.ofList
      ((tag.dateLayout style).flatMap (tag.pieceChars numbering d) ++ tag.eraChars d.year))
  else .error (.unavailable tag.text "date/time" (yearRangeReason d.year))

def timePieceChars (tag : LanguageTag) (numbering : NumberingSystem) (t : TimeOfDay) :
    TimePiece → List Char
  | .text s => s.toList
  | .hour padded => fieldChars numbering padded (tag.hourCycle.hour t)
  | .minute => fieldChars numbering true t.minute
  | .second => fieldChars numbering true t.second
  | .half => (tag.clock.halfName t).toList

/-- The text of a time at a standard length: the short one leaves the seconds out. -/
def timeText (tag : LanguageTag) (numbering : NumberingSystem) (style : TemporalStyle)
    (t : TimeOfDay) : String :=
  let layouts := tag.clock.layouts tag.hourCycle
  let layout := if style = .short then layouts.minutes else layouts.seconds
  String.ofList (layout.flatMap (tag.timePieceChars numbering t))

end LanguageTag

end Phrasebook
