/-! # Locale errors

    Why a locale cannot answer: its tag is malformed, it has no data or no rules
    for what is asked, or the number is none that it can write.
-/

namespace Phrasebook

/-- Why a localizer gives no answer. -/
inductive LocaleError where
  /-- The tag is not a language tag. -/
  | invalidTag (tag : String)
  /-- There is no data of a kind for a locale. -/
  | unavailable (tag what reason : String)
  /-- A locale has no rules for a style. -/
  | unsupportedStyle (tag style : String)
  /-- A number without digits to show, or one too large for its style. -/
  | invalidNumber (value : String)
  deriving DecidableEq, Repr

def LocaleError.message : LocaleError → String
  | invalidTag tag => "invalid locale tag '" ++ tag ++ "'"
  | unavailable tag what reason => "no " ++ what ++ " data for locale '" ++ tag ++ "': " ++ reason
  | unsupportedStyle tag style =>
    "style '" ++ style ++ "' is not supported for locale '" ++ tag ++ "'"
  | invalidNumber value => "cannot format " ++ value ++ " as a number"

end Phrasebook
