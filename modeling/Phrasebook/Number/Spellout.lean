import Phrasebook.Locale.Localizer

/-! # English number words

    Integers are spelled in groups of three digits with the names of the powers
    of a thousand, fractions digit by digit behind the word `point`. The suffix of
    an English rank follows from its plural category.
-/

namespace Phrasebook.Spellout

/-- The words for the numbers below twenty. -/
def ones : List String :=
  ["zero", "one", "two", "three", "four", "five", "six", "seven", "eight", "nine", "ten",
    "eleven", "twelve", "thirteen", "fourteen", "fifteen", "sixteen", "seventeen", "eighteen",
    "nineteen"]

/-- The words for the tens, from twenty on. -/
def tens : List String :=
  ["twenty", "thirty", "forty", "fifty", "sixty", "seventy", "eighty", "ninety"]

/-- The names of the powers of a thousand, behind the words of their groups. -/
def scales : List (List String) :=
  [[], ["thousand"], ["million"], ["billion"], ["trillion"], ["quadrillion"], ["quintillion"]]

def one (n : Nat) : String := ones.getD n ""

def ten (n : Nat) : String := tens.getD (n - 2) ""

/-- The words for a number below a hundred; none for zero. -/
def belowHundred (n : Nat) : List String :=
  if n = 0 then []
  else if n < 20 then [one n]
  else if n % 10 = 0 then [ten (n / 10)]
  else [ten (n / 10) ++ "-" ++ one (n % 10)]

/-- The words for a number below a thousand; none for zero. -/
def belowThousand (n : Nat) : List String :=
  (if n / 100 = 0 then [] else [one (n / 100), "hundred"]) ++ belowHundred (n % 100)

/-- The words for a number whose lowest group counts the first of the given
    powers of a thousand. Groups of zero are silent. -/
def groups : List (List String) → Nat → List String
  | [], _ => []
  | scale :: scales, n =>
    if n = 0 then []
    else
      groups scales (n / 1000) ++
        if n % 1000 = 0 then [] else belowThousand (n % 1000) ++ scale

/-- The words for a natural number of at most twenty-one digits. -/
def naturalWords (n : Nat) : List String :=
  if n = 0 then [one 0] else groups scales n

def digitWord? (c : Char) : Option String :=
  (Text.digit? c).map one

/-- The words for the digits of a fraction; none if one of them is no digit. -/
def digitWords? : List Char → Option (List String)
  | [] => some []
  | c :: cs => do
    let w ← digitWord? c
    let ws ← digitWords? cs
    return w :: ws

/-- The words for a decimal text: a 64-bit integer, optionally followed by a
    point and the digits of a fraction. A minus sign is spelled in front of zero too. -/
def words? (cs : List Char) : Option (List String) :=
  let whole := cs.takeWhile (· != '.')
  let fraction := (cs.dropWhile (· != '.')).drop 1
  match Text.int64? whole, digitWords? fraction with
  | some n, some ds =>
    let sign := if whole.head? = some '-' then ["minus"] else []
    let point := if ds.isEmpty then [] else "point" :: ds
    some (sign ++ naturalWords n.toInt.natAbs ++ point)
  | _, _ => none

/-- The spelling of a decimal text, its words between spaces. -/
def ofText? (s : String) : Option String :=
  (words? s.toList).map (String.intercalate " ")

/-- The suffix of an English rank, by the category of its number. -/
def ordinalSuffix : Category → String
  | .one => "st"
  | .two => "nd"
  | .few => "rd"
  | .zero => "th"
  | .many => "th"
  | .other => "th"

end Phrasebook.Spellout
