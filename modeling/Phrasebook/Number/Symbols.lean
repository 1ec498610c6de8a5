import Phrasebook.Decimal.Basic
import Phrasebook.Locale.DataNames
import Phrasebook.Number.Numbering

/-! # Number symbols

    How a locale writes the digits of a number: its minus sign, its decimal
    separator, the mark between groups of digits and where it stands, and the
    digits themselves. The lowest group has three digits. The key `nu` of a tag
    asks for other digits, which have symbols of their own in some locales.
-/

namespace Phrasebook

/-- The symbols with which a locale writes numbers. -/
structure NumberSymbols where
  /-- The minus sign. -/
  minus : String
  /-- The mark between the integer part and the fraction. -/
  decimal : String
  /-- The mark between groups of digits. -/
  group : String
  /-- The size of every group but the lowest. -/
  groupSize : Nat
  /-- The number of digits that must stand before the lowest group for groups to be marked. -/
  minGrouping : Nat
  /-- The digits. -/
  numbering : NumberingSystem
  deriving DecidableEq, Repr

namespace NumberSymbols

/-- Put a mark behind each digit that ends a group: the digits to its right are
    three, or three and some whole groups. -/
def grouped (groupSize : Nat) (mark : List Char) : List Char → List Char
  | [] => []
  | c :: cs =>
    let rest := grouped groupSize mark cs
    if 3 ≤ cs.length ∧ (cs.length - 3) % groupSize = 0 then c :: mark ++ rest else c :: rest

def wholeChars (s : NumberSymbols) (d : Decimal) : List Char :=
  let ds := d.wholeDigits.map s.numbering.write
  if 3 + s.minGrouping ≤ ds.length then grouped s.groupSize s.group.toList ds else ds

def fractionChars (s : NumberSymbols) (d : Decimal) : List Char :=
  if d.scale = 0 then [] else s.decimal.toList ++ d.fractionDigits.map s.numbering.write

/-- The characters of a decimal as the locale writes it: all digits that it has. -/
def chars (s : NumberSymbols) (d : Decimal) : List Char :=
  (if d.negative then s.minus.toList else []) ++ s.wholeChars d ++ s.fractionChars d

def text (s : NumberSymbols) (d : Decimal) : String :=
  String.ofList (s.chars d)

def root : NumberSymbols := ⟨"-", ".", ",", 3, 1, .latin⟩

/-- The symbols of locales, by the names of the locales that share them. Of two
    entries for one name the first has the digits that are usual there. -/
def table : List (List String × NumberSymbols) :=
  [
    (["cy", "en", "en-US", "es-419", "ga", "ja", "ko", "zh"],
      ⟨"-", ".", ",", 3, 1, .latin⟩),
    (["en-IN", "hi"],
      ⟨"-", ".", ",", 2, 1, .latin⟩),
    (["ar", "he"],
      ⟨"\u200e-", ".", ",", 3, 1, .latin⟩),
    (["ar-DZ", "ar-LY", "ar-MA", "ar-TN"],
      ⟨"\u200e-", ",", ".", 3, 1, .latin⟩),
    (["ar", "ar-BH", "ar-DJ", "ar-EG", "ar-ER", "ar-IL", "ar-IQ", "ar-JO", "ar-KM", "ar-KW",
      "ar-LB", "ar-MR", "ar-OM", "ar-PS", "ar-QA", "ar-SA", "ar-SD", "ar-SO", "ar-SS", "ar-SY",
      "ar-TD", "ar-YE"],
      ⟨"\u061c-", "\u066b", "\u066c", 3, 1, .arabic⟩),
    (["da", "de", "el", "en-AT", "en-BE", "en-DE", "en-DK", "en-ES", "en-ID", "en-IT", "en-NL",
      "en-PL", "en-RO", "en-SI", "es-AR", "es-BO", "es-CL", "es-CO", "es-EC", "es-PY", "es-UY",
      "es-VE", "fr-LU", "fr-MA", "nl", "pt", "ro", "tr"],
      ⟨"-", ",", ".", 3, 1, .latin⟩),
    (["cs", "de-AT", "en-CZ", "en-EE", "en-FI", "en-HU", "en-LT", "en-LV", "en-NO", "en-PT",
      "en-SE", "en-SK", "en-UA", "en-ZA", "es-CR", "fr-CA", "pt-AO", "ru", "uk"],
      ⟨"-", ",", "\u00a0", 3, 1, .latin⟩),
    (["de-CH", "de-LI", "en-CH"],
      ⟨"-", ".", "'", 3, 1, .latin⟩),
    (["fr-CH"],
      ⟨"-", ",", "'", 3, 1, .latin⟩),
    (["it-CH"],
      ⟨"-", ".", "'", 3, 2, .latin⟩),
    (["en-FR", "en-GE", "fr"],
      ⟨"-", ",", "\u202f", 3, 1, .latin⟩),
    (["es", "it"],
      ⟨"-", ",", ".", 3, 2, .latin⟩),
    (["hu", "lv", "pl", "pt-PT", "ru-UA"],
      ⟨"-", ",", "\u00a0", 3, 2, .latin⟩),
    (["fi", "lt", "no", "sv"],
      ⟨"\u2212", ",", "\u00a0", 3, 1, .latin⟩),
    (["sl"],
      ⟨"\u2212", ",", ".", 3, 2, .latin⟩)]

end NumberSymbols

/-- The number symbols of a locale. Digits that are asked for come with their own
    symbols where the locale has such, else with the usual ones. -/
def LanguageTag.numberSymbols (tag : LanguageTag) : NumberSymbols :=
  let usual := (tag.lookup? NumberSymbols.table).getD .root
  match tag.keyword? "nu" with
  | none => usual
  | some name =>
    match tag.lookupKind? (fun s => s.numbering.name == name) NumberSymbols.table with
    | some symbols => symbols
    | none =>
      match NumberingSystem.ofName? name with
      | some numbering => { usual with numbering }
      | none => usual

end Phrasebook
