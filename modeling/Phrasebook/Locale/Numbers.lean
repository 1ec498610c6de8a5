import Phrasebook.Locale.Data
import Phrasebook.Locale.Localizer
import Phrasebook.Number.Currency
import Phrasebook.Number.Duration
import Phrasebook.Number.Patterns
import Phrasebook.Number.Spellout

/-! # Numbers in a locale

    The plural category and the text of a number in each style, from the data of
    a locale. Words and ranks are known for English only.
-/

namespace Phrasebook

/-- A locale with its data and the currency for its amounts of money. -/
structure Locale where
  tag : LanguageTag
  /-- The code of the currency. -/
  currency : String
  data : LocaleData

namespace Locale

/-- The locale of a tag with the data of the tables, and with amounts in US dollars. -/
def ofLanguageTag (tag : LanguageTag) : Locale :=
  ⟨tag, "USD", .ofTag tag⟩

def ofTag (tag : String) : Except LocaleError Locale :=
  match LanguageTag.ofText? tag with
  | some t => .ok (.ofLanguageTag t)
  | none => .error (.invalidTag tag)

def withCurrency (l : Locale) (code : String) : Locale :=
  { l with currency := Currency.normalCode code }

/-- The error of a style for which the locale has no rules. -/
def unsupported (l : Locale) (style : NumberStyle) : LocaleError :=
  .unsupportedStyle l.tag.text style.name

def category (l : Locale) (kind : PluralKind) (q : Quantity) : Except LocaleError Category :=
  match Operands.ofQuantity? l.data.operands q with
  | some o => .ok (categoryBy (l.data.rules kind) o)
  | none => .error (.invalidNumber q.text)

def decimalText (l : Locale) (d : Decimal) : String :=
  l.data.symbols.text d

/-- The integer nearest to a number, or the error of a number that has none. -/
def rounded (q : Quantity) : Except LocaleError Int64 :=
  match q.rounded? with
  | some n => .ok n
  | none => .error (.invalidNumber q.text)

/-- All digits of a number. -/
def plainText (l : Locale) (q : Quantity) : Except LocaleError String :=
  match q.decimal? with
  | some d => .ok (l.decimalText d)
  | none => .error (.invalidNumber q.text)

def integerText (l : Locale) (q : Quantity) : Except LocaleError String :=
  (rounded q).map fun n => l.decimalText (.ofInt n.toInt)

/-- A hundred times the number, to the nearest integer, with the percent sign.
    The magnitude stops at the largest 64-bit integer. -/
def percentText (l : Locale) (q : Quantity) : Except LocaleError String :=
  (rounded (.real (q.toBinary64.mul (.ofInt 100)))).map fun p =>
    let magnitude := Int64.ofIntClamp p.toInt.natAbs
    let digits := l.data.symbols.chars (.ofInt magnitude.toInt)
    String.ofList (l.tag.percentAffixes.apply (p < 0) digits [])

/-- An amount of money: the magnitude in the digits of the currency, with its symbol. -/
def currencyText (l : Locale) (q : Quantity) : Except LocaleError String :=
  let money := Currency.ofCode l.currency
  let x := q.toBinary64
  match x.abs.toFixed? money.places with
  | some d =>
    let digits := l.data.symbols.chars d
    .ok (String.ofList (l.tag.currencyAffixes.apply x.isBelowZero digits money.symbol.toList))
  | none => .error (.invalidNumber x.abs.text)

def spelloutText (l : Locale) (q : Quantity) : Except LocaleError String :=
  if l.tag.language ≠ "en" then .error (l.unsupported .spellout)
  else
    match Spellout.ofText? q.text with
    | some s => .ok s
    | none => .error (.invalidNumber q.text)

/-- The rank of the nearest integer. -/
def ordinalText (l : Locale) (q : Quantity) : Except LocaleError String :=
  if l.tag.language ≠ "en" then .error (l.unsupported .ordinal)
  else do
    let n ← rounded q
    let c ← l.category .ordinal (.integer n)
    return l.decimalText (.ofInt n.toInt) ++ Spellout.ordinalSuffix c

/-- The nearest number of seconds on a clock. -/
def durationText (q : Quantity) : Except LocaleError String :=
  (rounded q).map fun n => Phrasebook.durationText n.toInt

def number (l : Locale) (style : NumberStyle) (q : Quantity) : Except LocaleError String :=
  match style with
  | .plain => l.plainText q
  | .integer => l.integerText q
  | .percent => l.percentText q
  | .currency => l.currencyText q
  | .spellout => l.spelloutText q
  | .ordinal => l.ordinalText q
  | .duration => durationText q

end Locale

end Phrasebook
