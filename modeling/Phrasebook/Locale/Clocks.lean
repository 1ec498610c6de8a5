import Phrasebook.Calendar.Moment
import Phrasebook.Locale.DataNames

/-! # Clocks of locales

    How a locale writes the time of day: whether it counts the hours once or in
    two halves, what stands between the parts, and what the halves are called.
    The key `hc` of a tag asks for another way to count the hours.
-/

namespace Phrasebook

/-- How the hours of a day are counted. -/
inductive HourCycle where
  /-- In halves from 0 to 11. -/
  | h11
  /-- In halves from 12 over 1 to 11. -/
  | h12
  /-- From 0 to 23. -/
  | h23
  deriving DecidableEq, Repr

def HourCycle.hour (cycle : HourCycle) (t : TimeOfDay) : Nat :=
  match cycle with
  | .h11 => t.hour % 12
  | .h12 => t.dialHour
  | .h23 => t.hour

/-- A part of a written time. -/
inductive TimePiece where
  /-- Text between the parts. -/
  | text (s : String)
  /-- The hour, perhaps padded to two digits. -/
  | hour (padded : Bool)
  /-- The minute in two digits. -/
  | minute
  /-- The second in two digits. -/
  | second
  /-- The name of the half of the day. -/
  | half
  deriving DecidableEq, Repr

instance : Coe String TimePiece := ⟨.text⟩

/-- The layouts of a time without and with its seconds. -/
structure TimeLayouts where
  minutes : List TimePiece
  seconds : List TimePiece
  deriving DecidableEq, Repr

namespace TimeLayouts

def marked (mark : String) (paddedHour : Bool) : TimeLayouts :=
  ⟨[.hour paddedHour, mark, .minute],
    [.hour paddedHour, mark, .minute, mark, .second]⟩

def colons (paddedHour : Bool) : TimeLayouts :=
  marked ":" paddedHour

def points (paddedHour : Bool) : TimeLayouts :=
  marked "." paddedHour

/-- The half of the day behind a time, with a gap. -/
def halfBehind (l : TimeLayouts) (gap : String) : TimeLayouts :=
  ⟨l.minutes ++ [.text gap, .half], l.seconds ++ [.text gap, .half]⟩

/-- The half of the day before a time, with a gap. -/
def halfBefore (l : TimeLayouts) (gap : String) : TimeLayouts :=
  ⟨.half :: .text gap :: l.minutes, .half :: .text gap :: l.seconds⟩

/-- A narrow gap at which no line ends. -/
def narrowGap : String := "\u202f"

/-- The half of the day a narrow gap behind a time with colons. -/
def narrow : TimeLayouts :=
  (colons false).halfBehind narrowGap

end TimeLayouts

/-- The clock of a locale. -/
structure Clock where
  /-- How the hours are counted where the tag does not say. -/
  usual : HourCycle
  /-- The name of the half before noon. -/
  morning : String
  /-- The name of the half from noon. -/
  afternoon : String
  /-- The layouts for hours in halves. -/
  half : TimeLayouts
  /-- The layouts for hours counted once. -/
  whole : TimeLayouts
  deriving DecidableEq, Repr

namespace Clock

open TimeLayouts

/-- A clock with hours counted once. -/
def wholeDay (morning afternoon : String) (half : TimeLayouts) : Clock :=
  ⟨.h23, morning, afternoon, half, colons true⟩

/-- A clock with hours in halves. -/
def halfDay (morning afternoon : String) (half : TimeLayouts) : Clock :=
  ⟨.h12, morning, afternoon, half, colons true⟩

/-- The clock where nothing else is known. -/
def root : Clock := wholeDay "AM" "PM" ((colons false).halfBehind " ")

/-- The clocks of locales, by the names of the locales that share them. -/
def table : List (List String × Clock) :=
  [
    (["ar"], halfDay "ص" "م" ((colons false).halfBehind " ")),
    (["cs"], { wholeDay "dop." "odp." narrow with whole := colons false }),
    (["cy", "de", "en-BI", "fr", "pt", "ru"], wholeDay "AM" "PM" narrow),
    (["da"],
      { wholeDay "AM" "PM" ((points false).halfBehind narrowGap) with whole := points true }),
    (["el"], halfDay "π.μ." "μ.μ." narrow),
    (["en", "en-AE", "en-IN", "fr-DJ", "fr-DZ", "fr-MR", "fr-SY", "fr-TD", "fr-TN", "fr-VU"],
      halfDay "AM" "PM" narrow),
    (["en-001"], halfDay "am" "pm" narrow),
    (["en-150", "en-AI", "en-BW", "en-BZ", "en-CC", "en-CK", "en-CM", "en-CX", "en-DG", "en-FK",
      "en-GB", "en-GG", "en-GI", "en-GS", "en-IE", "en-IM", "en-IO", "en-JE", "en-KE", "en-MG",
      "en-MS", "en-MT", "en-MU", "en-MV", "en-NF", "en-NG", "en-NR", "en-NU", "en-PN", "en-RW",
      "en-SC", "en-SH", "en-SX", "en-TK", "en-TV", "en-TZ", "en-UG", "en-ZA", "en-ZW"],
      wholeDay "am" "pm" narrow),
    (["en-CA"], halfDay "a.m." "p.m." narrow),
    (["en-DK", "en-ID"],
      { wholeDay "am" "pm" ((points false).halfBehind narrowGap) with whole := points true }),
    (["en-FI"],
      { wholeDay "am" "pm" ((points false).halfBehind narrowGap) with whole := points false }),
    (["en-IL"], { wholeDay "am" "pm" narrow with whole := colons false }),
    (["en-JP"], { wholeDay "AM" "PM" narrow with whole := colons false }),
    (["es", "es-AR", "es-CL", "es-PY", "es-UY"], wholeDay "a.\u202fm." "p.\u202fm." narrow),
    (["es-419"], halfDay "a.m." "p.m." narrow),
    (["es-BO", "es-CO", "es-CR", "es-DO", "es-EC", "es-GT", "es-HN", "es-NI", "es-PA", "es-PE",
      "es-PH", "es-PR", "es-SV", "es-VE"],
      halfDay "a.\u202fm." "p.\u202fm." narrow),
    (["es-BR", "es-BZ", "no", "pt-PT", "ro"], wholeDay "a.m." "p.m." narrow),
    (["es-MX"], halfDay "a.m." "p.m." ((colons true).halfBehind narrowGap)),
    (["fi"],
      { wholeDay "ap." "ip." ((points false).halfBehind narrowGap) with whole := points false }),
    (["fr-CA"],
      { wholeDay "a.m." "p.m."
          ⟨[.hour false, " h ", .minute, narrowGap, .half],
            [.hour false, " h ", .minute, " min ", .second, " s ", .half]⟩ with
        whole :=
          ⟨[.hour true, " h ", .minute],
            [.hour true, " h ", .minute, " min ", .second, " s"]⟩ }),
    (["ga"], wholeDay "r.n." "i.n." narrow),
    (["he"],
      { wholeDay "AM" "PM" ((colons false).halfBehind " ") with whole := colons false }),
    (["hi"], halfDay "am" "pm" ((colons false).halfBehind " ")),
    (["hu"],
      { wholeDay "de." "du." ((colons false).halfBefore narrowGap) with whole := colons false }),
    (["it"], wholeDay "AM" "PM" ((colons true).halfBehind narrowGap)),
    (["ja"],
      { wholeDay "午前" "午後" ((colons false).halfBefore "") with whole := colons false }),
    (["ko"], halfDay "오전" "오후" ((colons false).halfBefore " ")),
    (["lt"], wholeDay "priešpiet" "popiet" ((colons true).halfBehind narrowGap)),
    (["lv"], wholeDay "priekšp." "pēcp." narrow),
    (["nl"], wholeDay "a.m." "p.m." ((colons false).halfBehind " ")),
    (["nn"], wholeDay "f.m." "e.m." narrow),
    (["pl"], wholeDay "AM" "PM" ((colons false).halfBehind " ")),
    (["sl"], wholeDay "dop." "pop." narrow),
    (["sv"], wholeDay "fm" "em" narrow),
    (["sv-FI"],
      { wholeDay "fm" "em" ((points false).halfBehind narrowGap) with whole := points true }),
    (["tr"], wholeDay "ÖÖ" "ÖS" ((colons false).halfBefore narrowGap)),
    (["uk"], wholeDay "дп" "пп" narrow),
    (["zh"], wholeDay "上午" "下午" ((colons false).halfBefore "")),
    (["zh-Hant", "zh-HK", "zh-MO", "zh-TW"],
      halfDay "上午" "下午" ((colons false).halfBefore ""))]

def halfName (c : Clock) (t : TimeOfDay) : String :=
  if t.isAfternoon then c.afternoon else c.morning

def layouts (c : Clock) : HourCycle → TimeLayouts
  | .h23 => c.whole
  | _ => c.half

end Clock

namespace LanguageTag

def clock (tag : LanguageTag) : Clock :=
  (tag.lookup? Clock.table).getD .root

/-- How the hours are counted: as the key `hc` says, else as is usual. The values
    `c12` and `c24` name a number of hours; twelve hours begin with 0 in Japan and
    with 12 elsewhere. -/
def hourCycle (tag : LanguageTag) : HourCycle :=
  match tag.keyword? "hc" with
  | some "h11" => .h11
  | some "h12" => .h12
  | some "h23" => .h23
  | some "c12" => if tag.region = some "JP" then .h11 else .h12
  | some "c24" => .h23
  | _ => tag.clock.usual

end LanguageTag

end Phrasebook
