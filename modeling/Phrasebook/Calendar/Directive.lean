/-! # Directives of date patterns

    A date pattern is text with directives in it: a percent sign, perhaps a mark
    for the padding, and letters that name a field of a moment. Some directives
    stand for several fields, and some for a pattern that the locale provides. A
    pattern with a directive that does not exist is refused as a whole.
-/

namespace Phrasebook

/-! ### Fields -/

/-- How a number is filled up to its width. -/
inductive Padding where
  | none
  | space
  | zero
  deriving DecidableEq, Repr

/-- A field of a moment that is written as a number. -/
inductive NumericField where
  | year
  | century
  | yearOfCentury
  | isoYear
  | isoYearOfCentury
  | quarter
  | month
  | day
  /-- The day of the year. -/
  | ordinal
  /-- The day of the week, with Sunday as 0. -/
  | weekday
  /-- The day of the week, with Monday as 1. -/
  | isoWeekday
  | sundayWeek
  | mondayWeek
  | isoWeek
  | hour
  /-- The hour on a dial of twelve. -/
  | dialHour
  | minute
  | second
  | nano
  /-- Seconds since the start of the year 1970. -/
  | unixSeconds
  deriving DecidableEq, Repr

inductive OffsetForm where
  /-- Hours and minutes with a colon, and seconds if there are any. -/
  | name
  /-- Hours and minutes together, to the nearest minute. -/
  | plain
  /-- Hours and minutes with a colon, to the nearest minute. -/
  | colon
  /-- Hours, minutes and seconds. -/
  | seconds
  /-- Hours only. -/
  | hours
  deriving DecidableEq, Repr

/-- A piece of a written moment. -/
inductive MomentItem where
  /-- Text as it stands. -/
  | text (cs : List Char)
  /-- A field as a number. -/
  | number (field : NumericField) (padding : Padding)
  | shortWeekday
  | longWeekday
  | shortMonth
  | longMonth
  /-- The name of the half of the day, perhaps in small letters. -/
  | half (small : Bool)
  /-- The fraction of the second behind a point in as many digits as it needs, if there is one. -/
  | fraction
  /-- The fraction of the second in so many digits, perhaps behind a point. -/
  | fixedFraction (places : Nat) (pointed : Bool)
  /-- The offset. -/
  | offset (form : OffsetForm)
  /-- The whole moment as an internet text. -/
  | internet
  deriving DecidableEq, Repr

/-- What a directive stands for: pieces, or a pattern that the locale provides. -/
inductive Directive where
  | items (is : List MomentItem)
  /-- The pattern of a date. -/
  | localDate
  /-- The pattern of a time. -/
  | localTime
  /-- The pattern of a date and a time. -/
  | localDateTime
  /-- The pattern of a time of twelve hours. -/
  | localDialTime
  deriving DecidableEq, Repr

namespace Directive

/-! ### Reading -/

def zeroFilled (field : NumericField) : MomentItem := .number field .zero

def mark (c : Char) : MomentItem := .text [c]

def joined (c : Char) : List MomentItem → List MomentItem
  | [] => []
  | [i] => [i]
  | i :: is => i :: mark c :: joined c is

def letters : List (Char × Directive) :=
  [('Y', items [zeroFilled .year]), ('C', items [zeroFilled .century]),
    ('y', items [zeroFilled .yearOfCentury]), ('G', items [zeroFilled .isoYear]),
    ('g', items [zeroFilled .isoYearOfCentury]), ('q', items [.number .quarter .none]),
    ('m', items [zeroFilled .month]), ('d', items [zeroFilled .day]),
    ('e', items [.number .day .space]), ('j', items [zeroFilled .ordinal]),
    ('w', items [.number .weekday .none]), ('u', items [.number .isoWeekday .none]),
    ('U', items [zeroFilled .sundayWeek]), ('W', items [zeroFilled .mondayWeek]),
    ('V', items [zeroFilled .isoWeek]), ('H', items [zeroFilled .hour]),
    ('k', items [.number .hour .space]), ('I', items [zeroFilled .dialHour]),
    ('l', items [.number .dialHour .space]), ('M', items [zeroFilled .minute]),
    ('S', items [zeroFilled .second]), ('f', items [zeroFilled .nano]),
    ('s', items [.number .unixSeconds .none]),
    ('a', items [.shortWeekday]), ('A', items [.longWeekday]), ('b', items [.shortMonth]),
    ('h', items [.shortMonth]), ('B', items [.longMonth]), ('p', items [.half false]),
    ('P', items [.half true]), ('Z', items [.offset .name]), ('z', items [.offset .plain]),
    ('+', items [.internet]), ('t', items [mark '\t']), ('n', items [mark '\n']),
    ('%', items [mark '%']),
    ('D', items (joined '/' [zeroFilled .month, zeroFilled .day, zeroFilled .yearOfCentury])),
    ('F', items (joined '-' [zeroFilled .year, zeroFilled .month, zeroFilled .day])),
    ('v', items (joined '-' [.number .day .space, .shortMonth, zeroFilled .year])),
    ('R', items (joined ':' [zeroFilled .hour, zeroFilled .minute])),
    ('T', items (joined ':' [zeroFilled .hour, zeroFilled .minute, zeroFilled .second])),
    ('x', localDate), ('X', localTime), ('c', localDateTime), ('r', localDialTime)]

/-- The same directive with another padding, which only a single number has. -/
def withPadding (padding : Padding) : Directive → Option Directive
  | items [.number field _] => some (items [.number field padding])
  | _ => none

/-- The padding that a mark behind the percent sign asks for. -/
def padding? (c : Char) : Option Padding :=
  if c = '-' then some .none
  else if c = '_' then some .space
  else if c = '0' then some .zero
  else none

/-- Read what stands behind a percent sign: a directive and the number of its characters. -/
def read? : List Char → Option (Directive × Nat)
  | '.' :: 'f' :: _ => some (items [.fraction], 2)
  | '.' :: '3' :: 'f' :: _ => some (items [.fixedFraction 3 true], 3)
  | '.' :: '6' :: 'f' :: _ => some (items [.fixedFraction 6 true], 3)
  | '.' :: '9' :: 'f' :: _ => some (items [.fixedFraction 9 true], 3)
  | '3' :: 'f' :: _ => some (items [.fixedFraction 3 false], 2)
  | '6' :: 'f' :: _ => some (items [.fixedFraction 6 false], 2)
  | '9' :: 'f' :: _ => some (items [.fixedFraction 9 false], 2)
  | ':' :: 'z' :: _ => some (items [.offset .colon], 2)
  | ':' :: ':' :: 'z' :: _ => some (items [.offset .seconds], 3)
  | ':' :: ':' :: ':' :: 'z' :: _ => some (items [.offset .hours], 4)
  | [] => none
  | c :: cs =>
    match padding? c, cs with
    | some padding, letter :: _ =>
      ((letters.lookup letter).bind (withPadding padding)).map fun d => (d, 2)
    | some _, [] => none
    | none, _ => (letters.lookup c).map fun d => (d, 1)

/-- Read a pattern; none if a percent sign starts no directive. -/
def readAll? (cs : List Char) : Option (List Directive) :=
  match cs with
  | [] => some []
  | c :: rest =>
    if c = '%' then do
      let (d, n) ← read? rest
      let ds ← readAll? (rest.drop n)
      return d :: ds
    else do
      let ds ← readAll? rest
      return items [mark c] :: ds
termination_by cs.length

end Directive

end Phrasebook
