import Phrasebook.Calendar.DatePattern
import Phrasebook.Locale.Dates
import Phrasebook.Locale.Numbers

/-! # The standard localizer

    The localizer that answers from the data of a locale.
-/

namespace Phrasebook

namespace Locale

def patternText (l : Locale) (pattern : String) (m : Moment) : Except LocaleError String :=
  match m.byPattern? l.tag.patternNames pattern with
  | some s => .ok s
  | none => .error (.unsupportedStyle l.tag.text pattern)

/-- The text of the date or the time of a moment. A named style is a pattern and
    shows what it asks for, whichever half is wanted. -/
def moment (l : Locale) (kind : TemporalKind) (style : TemporalStyle) (m : Moment) :
    Except LocaleError String :=
  match style, kind with
  | .named pattern, _ => l.patternText pattern m
  | style, .date => l.tag.dateText l.data.symbols.numbering style m.date
  | style, .time => .ok (l.tag.timeText l.data.symbols.numbering style m.time)

def localizer (l : Locale) : Localizer where
  tag := l.tag.text
  category := l.category
  number := l.number
  moment := l.moment

/-- English, with amounts in US dollars. -/
def english : Locale :=
  .ofLanguageTag ⟨"en", none, none, [], [], []⟩

end Locale

end Phrasebook
