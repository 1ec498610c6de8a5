import Phrasebook.Binary64.Rounding
import Phrasebook.Decimal.Basic
import Phrasebook.Decimal.Numeral

/-! # Decimals of binary numbers

    A finite binary number is displayed by the fewest decimal digits that read
    back as the same number, always positional. The numbers that read back as
    `x` form an interval around `x`; the coarsest power of ten with a multiple in
    that interval gives the digits, and of two multiples the nearer one is taken.
    Which of two that lie equally near is taken is up to the caller. Fixed places
    and reading numerals are here too.
-/

namespace Phrasebook

namespace Binary64

/-! ### The interval of a finite number -/

/-- The reals that round to one magnitude, counted in quarters of a unit. -/
structure Span where
  /-- The magnitude itself. -/
  center : Nat
  /-- The lower end. -/
  low : Nat
  /-- The upper end. -/
  high : Nat
  /-- The ends round to the magnitude too. -/
  closed : Bool

/-- The interval of the magnitude `mantissa * 2 ^ scale`. Below a power of two
    the neighbour is half as far away as above it. -/
def span (mantissa scale : Nat) : Span :=
  let gap := 2 ^ scale
  let center := 4 * (mantissa * gap)
  let below := if mantissa = 2 ^ 52 ∧ scale ≠ 0 then gap else 2 * gap
  ⟨center, center - below, center + 2 * gap, mantissa % 2 == 0⟩

/-- Whether the interval holds `num / den`, a number given as a ratio of quarter units. -/
def Span.holds (i : Span) (num den : Nat) : Bool :=
  if i.closed then i.low * den ≤ num && num ≤ i.high * den
  else i.low * den < num && num < i.high * den

def powerOfTen (e : Int) : Nat × Nat :=
  if 0 ≤ e then (10 ^ e.toNat, 1) else (1, 10 ^ (-e).toNat)

/-- Which of two neighbouring multiples that lie equally near is taken. -/
inductive Tie where
  /-- The greater one. -/
  | upward
  /-- The even one. -/
  | toEven
  deriving DecidableEq, Repr

def Tie.choose (tie : Tie) (c : Nat) : Nat :=
  match tie with
  | .upward => c + 1
  | .toEven => c + c % 2

/-- The multiple of `10 ^ e` in the interval that is nearest to its centre; none
    if no multiple lies in the interval. -/
def Span.multiple? (i : Span) (tie : Tie) (e : Int) : Option Nat :=
  let (p, q) := powerOfTen e
  let step := p * (4 * one)
  -- only the last multiple up to the centre and the one behind it can be the nearest
  let c := i.center * q / step
  let lower := i.holds (c * step) q
  let upper := i.holds ((c + 1) * step) q
  let middle := (2 * c + 1) * step
  if lower && upper then
    some <|
      if 2 * (i.center * q) < middle then c
      else if middle < 2 * (i.center * q) then c + 1
      else tie.choose c
  else if lower then some c
  else if upper then some (c + 1)
  else none

/-- The powers of ten to try, the coarsest first. Every interval holds a
    multiple of the last one. -/
def exponents : List Int :=
  (List.range 633).map fun (i : Nat) => 308 - (i : Int)

/-- The fewest digits that read back as the magnitude: a number and a power of ten. -/
def shortest (tie : Tie) (mantissa scale : Nat) : Nat × Int :=
  let i := span mantissa scale
  (exponents.findSome? fun e => (i.multiple? tie e).map fun c => (c, e)).getD (0, 0)

/-! ### Displaying -/

/-- The shortest digits of a finite number as a decimal; none beyond the finite numbers. -/
def shortest? (tie : Tie) : Binary64 → Option Decimal
  | finite negative 0 _ _ => some ⟨negative, 0, 0⟩
  | finite negative mantissa scale _ =>
    let (c, e) := shortest tie mantissa scale
    some ⟨negative, c * 10 ^ e.toNat, (-e).toNat⟩
  | _ => none

/-- The displayed digits of a finite number; of two decimals that are equally
    short and near, the one with the greater magnitude. -/
def toDecimal? (x : Binary64) : Option Decimal :=
  x.shortest? .upward

/-- The displayed text of a number, never with an exponent. -/
def text : Binary64 → String
  | nan => "NaN"
  | infinity negative => if negative then "-inf" else "inf"
  | x => (x.toDecimal?.map Decimal.text).getD ""

/-- A finite number with a given number of places behind the point, the exact
    value rounded with a tie going to the even digit; none beyond the finite numbers. -/
def toFixed? (places : Nat) : Binary64 → Option Decimal
  | finite negative mantissa scale _ =>
    some ⟨negative, roundedQuotient (mantissa * 2 ^ scale * 10 ^ places) one, places⟩
  | _ => none

/-! ### Reading -/

/-- How a numeral is rounded: the sign and a ratio become a number. -/
abbrev Rounding := Bool → Nat → Nat → Binary64

/-- The number nearest to a numeral. Magnitudes above `10 ^ 399` are infinite and
    those below `10 ^ -400` are zero in every format used here, so that a huge
    power of ten is never computed. -/
def ofNumeral (round : Rounding) : Numeral → Binary64
  | .nan => nan
  | .infinity negative => .infinity negative
  | .decimal negative coefficient exponent =>
    -- the power of ten just above the magnitude
    let top := ((Text.digits coefficient).length : Int) + exponent
    if coefficient = 0 ∨ top < -400 then zero negative
    else if 400 < top then .infinity negative
    else
      let (p, q) := powerOfTen exponent
      round negative (coefficient * p) q

/-- The number that a text spells, correctly rounded. -/
def ofChars? (cs : List Char) : Option Binary64 :=
  (Numeral.ofChars? cs).map (ofNumeral ofRatio)

/-- The number that a text spells, rounded to 24 bits. -/
def ofCharsSingle? (cs : List Char) : Option Binary64 :=
  (Numeral.ofChars? cs).map (ofNumeral ofRatioSingle)

end Binary64

end Phrasebook
