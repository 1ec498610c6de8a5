import Phrasebook.Pattern.Element
import Phrasebook.Decimal.Shortest

/-! # Templates

    A template is a pattern that has been checked: every choice has a branch to
    fall back on, the keys that stand for numbers are numbers, and each `#` has
    become a number of the plural around it.
-/

namespace Phrasebook

/-- A checked pattern, ready to be rendered any number of times. -/
inductive Template where
  /-- Text that is shown as it stands. -/
  | literal (text : String)
  /-- Templates one after another. -/
  | sequence (ts : List Template)
  /-- An argument shown as text. -/
  | argument (id : String)
  /-- An argument, less an offset, shown as a number. -/
  | number (id : String) (offset : Int64) (style : NumberStyle)
  /-- The date or the time of an argument. -/
  | moment (id : String) (kind : TemporalKind) (style : TemporalStyle)
  /-- A choice by number: branches for exact values, for plural categories, and for all else. -/
  | plural (id : String) (kind : PluralKind) (offset : Int64)
      (exact : List (Binary64 × Template)) (keyed : List (String × Template)) (other : Template)
  /-- A choice by text: branches for given texts and for all else. -/
  | select (id : String) (branches : List (String × Template)) (other : Template)
  /-- A markup tag around children. -/
  | tag (id attributes : String) (children : Template)
  /-- A markup tag that closes itself. -/
  | emptyTag (id attributes : String)
  deriving Inhabited

/-- Templates one after another; a single one stands for itself. -/
def Template.ofParts : List Template → Template
  | [t] => t
  | ts => .sequence ts

end Phrasebook
