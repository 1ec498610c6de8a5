import Phrasebook.Text.Digits

/-! # Written numerals

    The spelling of a real number in a text: a sign, digits around an optional
    point, an optional power of ten; or one of the words for an infinity or for
    not-a-number.
-/

namespace Phrasebook

open Text

/-- What a numeral says before it is rounded to any number format. -/
inductive Numeral where
  /-- Not a number. -/
  | nan
  /-- An infinity. -/
  | infinity (negative : Bool)
  /-- `coefficient * 10 ^ exponent`. -/
  | decimal (negative : Bool) (coefficient : Nat) (exponent : Int)
  deriving DecidableEq, Repr

namespace Numeral

/-- The power of ten behind a run of digits: none at all, or a letter `e`, a sign and digits. -/
def exponent? : List Char → Option Int
  | [] => some 0
  | c :: cs => if c = 'e' ∨ c = 'E' then integer? cs else none

/-- A decimal numeral without its sign: digits with an optional point, at least
    one digit on one side of it, and an optional power of ten. -/
def unsigned? (negative : Bool) (cs : List Char) : Option Numeral :=
  let whole := cs.takeWhile Char.isDigit
  let rest := cs.dropWhile Char.isDigit
  let (fraction, tail) :=
    match rest with
    | '.' :: more => (more.takeWhile Char.isDigit, more.dropWhile Char.isDigit)
    | _ => ([], rest)
  match natural? (whole ++ fraction), exponent? tail with
  | some n, some e => some (.decimal negative n (e - fraction.length))
  | _, _ => none

/-- The numeral that a text spells. The words `inf`, `infinity` and `nan` are
    read in any case. -/
def ofChars? (cs : List Char) : Option Numeral :=
  let (negative, rest) := signed cs
  let word := String.ofList (rest.map Char.toLower)
  if word = "inf" ∨ word = "infinity" then some (.infinity negative)
  else if word = "nan" then some .nan
  else unsigned? negative rest

end Numeral

end Phrasebook
