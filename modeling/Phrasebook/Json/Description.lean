import Phrasebook.Decimal.Scientific
import Phrasebook.Decimal.Shortest
import Phrasebook.Json.Basic
import Phrasebook.Text.Quoted

/-! # Describing a JSON value

    How an error names a value that it did not expect.
-/

namespace Phrasebook.Json

/-- Whether the digits of a decimal are shown in their places: the first one
    counts a power of ten from `10 ^ -5` to `10 ^ 15`, or all of them are zero. -/
def isPositional (d : Decimal) : Bool :=
  d.coefficient == 0 || (-5 ≤ d.exponent && d.exponent ≤ 15)

/-- The shortest digits of a number, in their places or in scientific notation.
    Of two decimals that are equally short and near, the even one is written. A
    whole number in places gets a zero behind a point. -/
def realText (x : Binary64) : String :=
  match x.shortest? .toEven with
  | some d =>
    if !isPositional d then d.scientificText
    else if d.scale = 0 then d.text ++ ".0"
    else d.text
  | none => x.text

/-- The kind of a value and, for the simple kinds, the value itself. -/
def description : Json → String
  | null => "null"
  | boolean b => "boolean `" ++ (if b then "true" else "false") ++ "`"
  | integer n => "integer `" ++ Text.integerText n ++ "`"
  | real x => "floating point `" ++ realText x ++ "`"
  | text s => "string " ++ Text.quoted s
  | array _ => "sequence"
  | object _ => "map"

end Phrasebook.Json
