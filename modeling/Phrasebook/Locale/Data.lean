import Phrasebook.Number.Symbols
import Phrasebook.Plural.Table

/-! # Data of a locale

    The plural rules and the number symbols of a locale are not decided here, and neither is
    how the rules look at a decimal. All this comes with the locale, and what is said of the
    categories and the texts of numbers is said of any such data. The tables of this library
    hold rows for some thirty languages; another language starts without plural rules and
    with the symbols of the root locale, until it is given its own.
-/

namespace Phrasebook

/-- What a locale is told about its numbers. -/
structure LocaleData where
  /-- The plural rules for counting. -/
  cardinalRules : List PluralRule
  /-- The plural rules for ranking. -/
  ordinalRules : List PluralRule
  /-- What plural rules see of a displayed decimal. -/
  operands : Decimal → Operands
  /-- How numbers are written. -/
  symbols : NumberSymbols
  /-- An integer of up to 18 digits is seen as it is. More digits need not be seen. -/
  operands_of_integer : ∀ d : Decimal, d.scale = 0 → d.whole < 10 ^ 18 →
    operands d = .ofInt d.whole

namespace LocaleData

def rules (data : LocaleData) : PluralKind → List PluralRule
  | .cardinal => data.cardinalRules
  | .ordinal => data.ordinalRules

/-- The data that the tables hold for a tag. -/
def ofTag (tag : LanguageTag) : LocaleData where
  cardinalRules := tag.pluralRules .cardinal
  ordinalRules := tag.pluralRules .ordinal
  operands := .ofDecimal
  symbols := tag.numberSymbols
  operands_of_integer := by
    intro d hscale _
    -- without places there are no digits behind the point
    have hfraction : d.fraction = 0 := by
      rw [Decimal.fraction, hscale, Nat.pow_zero, Nat.mod_one]
    simp [Operands.ofDecimal, Operands.ofInt, hscale, hfraction]

end LocaleData

end Phrasebook
