import Phrasebook.Text.Letter

/-! # Affixes of number patterns

    A number pattern such as `#,##0.00 ¤` says what stands around the digits of
    a percentage or of an amount of money. Only its two ends matter here: the
    digits in between are those of the number symbols. A sign for the currency is
    put in place of each `¤`, and a symbol that ends in a letter is kept apart
    from the digits that it would touch.
-/

namespace Phrasebook

/-- The place of the currency symbol in a pattern. -/
def currencySign : Char := '¤'

/-- The space that keeps a currency code apart from digits. -/
def noBreakSpace : Char := '\u00a0'

/-- What stands before and behind the digits. -/
structure Affixes where
  /-- Before the digits. -/
  before : List Char
  /-- Behind the digits. -/
  behind : List Char
  deriving DecidableEq, Repr

namespace Affixes

/-- A character that stands for a digit of the number. -/
def isPlace (c : Char) : Bool :=
  c == '#' || c == '0'

/-- The affixes of a pattern. Only what stands before the first semicolon is
    used: a negative number has a minus sign in front instead of a pattern of its
    own. Without a place for a digit all of it stands before the digits. -/
def ofPattern (pattern : List Char) : Affixes :=
  let positive := pattern.takeWhile (· ≠ ';')
  if positive.any isPlace then
    ⟨positive.takeWhile fun c => !isPlace c,
      (positive.reverse.takeWhile fun c => !isPlace c).reverse⟩
  else ⟨positive, []⟩

def withSymbol (symbol affix : List Char) : List Char :=
  affix.flatMap fun c => if c = currencySign then symbol else [c]

/-- A no-break space if the symbol touches the digits with a letter. The two
    characters are those next to the digits: of the pattern and of the symbol. -/
def spacing (ofPattern ofSymbol : Option Char) : List Char :=
  if ofPattern = some currencySign ∧ ofSymbol.any Text.isLetter then [noBreakSpace] else []

/-- Digits between the affixes, with a minus sign in front of a negative number. -/
def apply (a : Affixes) (negative : Bool) (digits symbol : List Char) : List Char :=
  -- in front of all affixes, also of a currency symbol
  (if negative then ['-'] else []) ++
    withSymbol symbol a.before ++ spacing a.before.getLast? symbol.getLast? ++
    digits ++
    spacing a.behind.head? symbol.head? ++ withSymbol symbol a.behind

end Affixes

end Phrasebook
