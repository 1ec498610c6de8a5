import Phrasebook.Locale.DataNames

/-! # Layouts of dates

    The order in which a locale writes the parts of a date at each length, and what
    stands between them. Most locales write a short date in digits and name the
    month in the longer ones.
-/

namespace Phrasebook

inductive DatePiece where
  /-- Text between the parts. -/
  | text (s : String)
  /-- The day of the month, perhaps padded to two digits. -/
  | day (padded : Bool)
  /-- The number of the month, perhaps padded to two digits. -/
  | month (padded : Bool)
  /-- The short name of the month. -/
  | shortMonth
  /-- The full name of the month. -/
  | longMonth
  /-- The full name of the weekday. -/
  | weekday
  /-- The year. -/
  | year
  /-- The last two digits of a year near the present, else the year. -/
  | shortYear
  deriving DecidableEq, Repr

instance : Coe String DatePiece := ⟨.text⟩

/-- The layouts of a date by length. -/
structure DateLayouts where
  short : List DatePiece
  medium : List DatePiece
  long : List DatePiece
  full : List DatePiece
  deriving DecidableEq, Repr

namespace DateLayouts

/-! ### Common orders -/

/-- Three parts with one mark between them. -/
def marked (first : DatePiece) (mark : String) (second third : DatePiece) : List DatePiece :=
  [first, mark, second, mark, third]

/-- A day and a month, with the texts behind them, and the year. -/
def written (d m : DatePiece) (behindDay behindMonth : String) : List DatePiece :=
  [d, behindDay, m, behindMonth, .year]

/-- Layouts that write the day in some form, the name of the month and the year, with
    the texts behind the day, behind the month and behind the weekday in front. -/
def dayFirstAs (d : DatePiece) (short : List DatePiece)
    (behindDay behindMonth behindWeekday : String) : DateLayouts :=
  let long := written d .longMonth behindDay behindMonth
  ⟨short, written d .shortMonth behindDay behindMonth, long,
    .weekday :: .text behindWeekday :: long⟩

/-- Such layouts with a day that is not padded. -/
def dayFirst (short : List DatePiece) (behindDay behindMonth behindWeekday : String) :
    DateLayouts :=
  dayFirstAs (.day false) short behindDay behindMonth behindWeekday

/-- Layouts that name the month in front of the day. -/
def monthFirst (short : List DatePiece) : DateLayouts :=
  let long : List DatePiece := [.longMonth, " ", .day false, ", ", .year]
  ⟨short, [.shortMonth, " ", .day false, ", ", .year], long, .weekday :: .text ", " :: long⟩

/-- Layouts from the year to the day with a sign behind each number. -/
def signed (short medium behindDate : List DatePiece) : DateLayouts :=
  let long : List DatePiece := [.year, "年", .month false, "月", .day false, "日"]
  ⟨short, medium, long, long ++ behindDate⟩

/-- Layouts with a text behind the year where the month has its name. -/
def behindYear (text : String) (l : DateLayouts) : DateLayouts :=
  ⟨l.short, l.medium ++ [.text text], l.long ++ [.text text], l.full ++ [.text text]⟩

/-! ### Locales -/

def root : DateLayouts :=
  ⟨marked .year "-" (.month true) (.day true),
    [.year, " ", .shortMonth, " ", .day false],
    [.year, " ", .longMonth, " ", .day false],
    [.year, " ", .longMonth, " ", .day false, ", ", .weekday]⟩

/-- The layouts of locales, by the names of the locales that share them. -/
def table : List (List String × DateLayouts) :=
  [
    (["ar"],
      ⟨marked (.day false) "\u200f/" (.month false) .year,
        marked (.day true) "\u200f/" (.month true) .year,
        [.day false, " ", .longMonth, " ", .year],
        [.weekday, "، ", .day false, " ", .longMonth, " ", .year]⟩),
    (["cs"],
      { dayFirst (marked (.day true) ". " (.month true) .shortYear) ". " " " " " with
        medium := marked (.day false) ". " (.month false) .year }),
    (["cy"], dayFirst (marked (.day true) "/" (.month true) .shortYear) " " " " ", "),
    (["da", "no"], dayFirst (marked (.day true) "." (.month true) .year) ". " " " " "),
    (["de"],
      { dayFirst (marked (.day true) "." (.month true) .shortYear) ". " " " ", " with
        medium := marked (.day true) "." (.month true) .year }),
    (["el"], dayFirst (marked (.day false) "/" (.month false) .shortYear) " " " " " "),
    (["en"], monthFirst (marked (.month false) "/" (.day false) .shortYear)),
    (["en-CA"], monthFirst (marked .shortYear "-" (.month false) (.day false))),
    (["en-JP"], monthFirst (marked .year "/" (.month false) (.day false))),
    (["en-001", "en-AE"],
      dayFirst (marked (.day true) "/" (.month true) .year) " " " " ", "),
    (["en-AU"], dayFirst (marked (.day false) "/" (.month false) .shortYear) " " " " " "),
    (["en-BE", "en-IN"],
      { dayFirst (marked (.day true) "/" (.month true) .shortYear) " " " " ", " with
        medium := written (.day true) .shortMonth " " " " }),
    (["en-BW", "en-BZ"],
      dayFirstAs (.day true) (marked (.day true) "/" (.month true) .shortYear) " " " " ", "),
    (["en-CH"], dayFirst (marked (.day true) "." (.month true) .year) " " " " ", "),
    (["en-HK"], dayFirst (marked (.day false) "/" (.month false) .year) " " " " ", "),
    (["en-IE"], dayFirst (marked (.day true) "/" (.month true) .year) " " " " " "),
    (["en-NZ"],
      { dayFirst (marked (.day false) "/" (.month true) .shortYear) " " " " ", " with
        medium := marked (.day false) "/" (.month true) .year }),
    (["en-SE"], dayFirst (marked .year "-" (.month true) (.day true)) " " " " ", "),
    (["en-SG"], dayFirst (marked (.day false) "/" (.month false) .shortYear) " " " " ", "),
    (["en-ZA"],
      dayFirstAs (.day true) (marked .year "/" (.month true) (.day true)) " " " " ", "),
    (["es"],
      { dayFirst (marked (.day false) "/" (.month false) .shortYear) " de " " de " ", " with
        medium := written (.day false) .shortMonth " " " " }),
    (["es-AR"],
      dayFirst (marked (.day false) "/" (.month false) .shortYear) " de " " de " ", "),
    (["es-CL"],
      { dayFirst (marked (.day true) "-" (.month true) .shortYear) " de " " de " ", " with
        medium := marked (.day true) "-" (.month true) .year }),
    (["es-CO", "es-GT"],
      { dayFirst (marked (.day false) "/" (.month true) .shortYear) " de " " de " ", " with
        medium := marked (.day false) "/" (.month true) .year }),
    (["es-DO"],
      { dayFirst (marked (.day false) "/" (.month false) .shortYear) " de " " de " ", " with
        medium := written (.day false) .shortMonth " " " de " }),
    (["es-HN"],
      { dayFirstAs (.day true) (marked (.day false) "/" (.month false) .shortYear)
          " de " " de " ", " with
        medium := written (.day false) .shortMonth " " " " }),
    (["es-MX"],
      { dayFirst (marked (.day true) "/" (.month true) .shortYear) " de " " de " ", " with
        medium := written (.day false) .shortMonth " " " " }),
    (["es-PA", "es-PR"],
      { dayFirst (marked (.month true) "/" (.day true) .shortYear) " de " " de " ", " with
        medium := marked (.month true) "/" (.day true) .year }),
    (["es-PE"],
      { dayFirst (marked (.day false) "/" (.month true) .shortYear) " de " " de " ", " with
        medium := written (.day false) .shortMonth " " " " }),
    (["es-US"],
      { dayFirst (marked (.day false) "/" (.month false) .year) " de " " de " ", " with
        medium := written (.day false) .shortMonth " " " " }),
    (["fi"],
      { dayFirst (marked (.day false) "." (.month false) .year) ". " " " " " with
        medium := marked (.day false) "." (.month false) .year }),
    (["fr", "ga"], dayFirst (marked (.day true) "/" (.month true) .year) " " " " " "),
    (["fr-BE"], dayFirst (marked (.day false) "/" (.month true) .shortYear) " " " " " "),
    (["fr-CA", "sv"], dayFirst (marked .year "-" (.month true) (.day true)) " " " " " "),
    (["fr-CH"], dayFirst (marked (.day true) "." (.month true) .shortYear) " " " " " "),
    (["he"], dayFirst (marked (.day false) "." (.month false) .year) " ב" " " ", "),
    (["hi"], dayFirst (marked (.day false) "/" (.month false) .shortYear) " " " " ", "),
    (["hu"],
      ⟨[.year, ". ", .month true, ". ", .day true, "."],
        [.year, ". ", .shortMonth, " ", .day false, "."],
        [.year, ". ", .longMonth, " ", .day false, "."],
        [.year, ". ", .longMonth, " ", .day false, "., ", .weekday]⟩),
    (["it"], dayFirst (marked (.day true) "/" (.month true) .shortYear) " " " " " "),
    (["ja"],
      signed (marked .year "/" (.month true) (.day true))
        (marked .year "/" (.month true) (.day true)) [.weekday]),
    (["ko"],
      ⟨marked .shortYear "/" (.month false) (.day false),
        marked .year "/" (.month false) (.day false),
        [.year, "년 ", .longMonth, " ", .day false, "일"],
        [.year, "년 ", .longMonth, " ", .day false, "일 ", .weekday]⟩),
    (["lt"],
      ⟨marked .year "-" (.month true) (.day true),
        marked .year "-" (.month true) (.day true),
        [.year, " m. ", .longMonth, " ", .day false, " d."],
        [.year, " m. ", .longMonth, " ", .day false, " d., ", .weekday]⟩),
    (["lv"],
      ⟨marked (.day true) "." (.month true) .shortYear ++ [.text "."],
        [.year, ". g. ", .day false, ". ", .shortMonth],
        [.year, ". g. ", .day false, ". ", .longMonth],
        [.weekday, ", ", .year, ". g. ", .day false, ". ", .longMonth]⟩),
    (["nl"], dayFirst (marked (.day true) "-" (.month true) .year) " " " " " "),
    (["nl-BE"], dayFirst (marked (.day false) "/" (.month true) .year) " " " " " "),
    (["pl", "ro"], dayFirst (marked (.day true) "." (.month true) .year) " " " " ", "),
    (["pt"], dayFirst (marked (.day true) "/" (.month true) .year) " de " " de " ", "),
    (["pt-PT"],
      { dayFirst (marked (.day true) "/" (.month true) .shortYear) " de " " de " ", " with
        medium := marked (.day true) "/" (.month true) .year }),
    (["ru"],
      behindYear "\u202fг."
        (dayFirst (marked (.day true) "." (.month true) .year) " " " " ", ")),
    (["sl"],
      { dayFirstAs (.day true) (marked (.day false) ". " (.month true) .shortYear)
          ". " " " ", " with
        medium := written (.day false) .shortMonth ". " " " }),
    (["sv-FI"], dayFirst (marked (.day true) "." (.month true) .year) " " " " " "),
    (["tr"],
      ⟨marked (.day false) "." (.month true) .year,
        written (.day false) .shortMonth " " " ",
        written (.day false) .longMonth " " " ",
        [.day false, " ", .longMonth, " ", .year, " ", .weekday]⟩),
    (["uk"],
      behindYear "\u202fр."
        (dayFirst (marked (.day true) "." (.month true) .shortYear) " " " " ", ")),
    (["zh", "zh-Hant"],
      signed (marked .year "/" (.month false) (.day false))
        [.year, "年", .month false, "月", .day false, "日"] [.weekday]),
    (["zh-HK", "zh-MO"],
      signed (marked (.day false) "/" (.month false) .year)
        [.year, "年", .month false, "月", .day false, "日"] [.weekday])]

end DateLayouts

def LanguageTag.dateLayouts (tag : LanguageTag) : DateLayouts :=
  (tag.lookup? DateLayouts.table).getD .root

end Phrasebook
