import Phrasebook.Locale.LanguageTag
import Phrasebook.Number.Affixes

/-! # Number patterns of locales

    The CLDR patterns for percentages and for amounts of money. They are looked
    up by the whole tag, then by the language, then for the root locale, so a
    variant or an extension in a tag leads to the patterns of its language.
-/

namespace Phrasebook

/-- The number patterns of one locale. -/
structure NumberPatterns where
  percent : String
  currency : String
  deriving DecidableEq, Repr

namespace NumberPatterns

def root : NumberPatterns := ⟨"#,##0%", "¤\u00a0#,##0.00"⟩

/-- The patterns of locales by name. -/
def table : List (String × NumberPatterns) :=
  [
    ("ar", ⟨"#,##0%", "\u200f#,##0.00\u00a0¤"⟩),
    ("cs", ⟨"#,##0\u00a0%", "#,##0.00\u00a0¤"⟩),
    ("da", ⟨"#,##0\u00a0%", "#,##0.00\u00a0¤"⟩),
    ("de", ⟨"#,##0\u00a0%", "#,##0.00\u00a0¤"⟩),
    ("de-AT", ⟨"#,##0\u00a0%", "¤\u00a0#,##0.00"⟩),
    ("de-CH", ⟨"#,##0%", "¤\u00a0#,##0.00"⟩),
    ("el", ⟨"#,##0%", "#,##0.00\u00a0¤"⟩),
    ("en", ⟨"#,##0%", "¤#,##0.00"⟩),
    ("es", ⟨"#,##0\u00a0%", "#,##0.00\u00a0¤"⟩),
    ("fi", ⟨"#,##0\u00a0%", "#,##0.00\u00a0¤"⟩),
    ("fr", ⟨"#,##0\u202f%", "#,##0.00\u00a0¤"⟩),
    ("he", ⟨"#,##0%", "\u200f#,##0.00\u00a0¤;\u200f-#,##0.00\u00a0¤"⟩),
    ("hi", ⟨"#,##,##0%", "¤#,##,##0.00"⟩),
    ("it", ⟨"#,##0%", "#,##0.00\u00a0¤"⟩),
    ("ja", ⟨"#,##0%", "¤#,##0.00"⟩),
    ("ko", ⟨"#,##0%", "¤#,##0.00"⟩),
    ("nb", ⟨"#,##0\u00a0%", "#,##0.00\u00a0¤"⟩),
    ("nl", ⟨"#,##0%", "¤\u00a0#,##0.00"⟩),
    ("pl", ⟨"#,##0%", "#,##0.00\u00a0¤"⟩),
    ("pt", ⟨"#,##0%", "¤\u00a0#,##0.00"⟩),
    ("pt-PT", ⟨"#,##0%", "#,##0.00\u00a0¤"⟩),
    ("ru", ⟨"#,##0\u00a0%", "#,##0.00\u00a0¤"⟩),
    ("sv", ⟨"#,##0\u00a0%", "#,##0.00\u00a0¤"⟩),
    ("tr", ⟨"%#,##0", "¤#,##0.00"⟩),
    ("uk", ⟨"#,##0%", "#,##0.00\u00a0¤"⟩),
    ("zh", ⟨"#,##0%", "¤#,##0.00"⟩)]

end NumberPatterns

namespace LanguageTag

def numberPatterns (tag : LanguageTag) : NumberPatterns :=
  match NumberPatterns.table.lookup tag.text with
  | some patterns => patterns
  | none => (NumberPatterns.table.lookup tag.language).getD .root

/-- What stands around the digits of a percentage. -/
def percentAffixes (tag : LanguageTag) : Affixes :=
  .ofPattern tag.numberPatterns.percent.toList

/-- What stands around the digits of an amount of money. -/
def currencyAffixes (tag : LanguageTag) : Affixes :=
  .ofPattern tag.numberPatterns.currency.toList

end LanguageTag

end Phrasebook
