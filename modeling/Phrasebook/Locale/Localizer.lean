import Phrasebook.Calendar.Moment
import Phrasebook.Locale.Error
import Phrasebook.Locale.Style
import Phrasebook.Number.Quantity

/-! # Localizers

    A localizer answers the three questions on which a message depends and which
    languages answer differently: the plural category of a number, the text of a
    number, and the text of a date or a time. Rendering knows a locale only
    through its localizer.
-/

namespace Phrasebook

inductive Category where
  | zero
  | one
  | two
  | few
  | many
  | other
  deriving DecidableEq, Repr

/-- The branch key of a category. -/
def Category.keyword : Category → String
  | zero => "zero"
  | one => "one"
  | two => "two"
  | few => "few"
  | many => "many"
  | other => "other"

/-- Answers to locale questions. -/
structure Localizer where
  /-- The canonical tag of the locale. -/
  tag : String
  /-- The plural category of a number. -/
  category : PluralKind → Quantity → Except LocaleError Category
  /-- The text of a number in a style. -/
  number : NumberStyle → Quantity → Except LocaleError String
  /-- The text of the date or the time of a moment in a style. -/
  moment : TemporalKind → TemporalStyle → Moment → Except LocaleError String

end Phrasebook
