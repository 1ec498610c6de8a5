import Phrasebook.Locale.Style
import Phrasebook.Table

/-! # Message patterns

    A pattern is a list of elements: literal text, placeholders for arguments,
    choices between branches, and markup tags around further elements. Branches
    are kept in tables, so a choice meets them in ascending order of their keys.
-/

namespace Phrasebook

/-- One element of a message pattern. -/
inductive Element where
  /-- Text that is shown as it stands. -/
  | literal (text : String)
  /-- A place where an argument is shown as text. -/
  | argument (id : String)
  /-- A place where an argument, less an offset, is shown as a number. -/
  | number (id : String) (offset : Int64) (style : NumberStyle)
  /-- A place where the date or the time of an argument is shown. -/
  | moment (id : String) (kind : TemporalKind) (style : TemporalStyle)
  /-- A choice by the plural category of an argument. -/
  | plural (id : String) (kind : PluralKind) (offset : Int64)
      (branches : List (String × List Element))
  /-- A choice by the text of an argument. -/
  | select (id : String) (branches : List (String × List Element))
  /-- A markup tag around children. The attributes are kept as one text. -/
  | tag (id attributes : String) (children : List Element)
  /-- A markup tag that closes itself. -/
  | emptyTag (id attributes : String)
  /-- The number that the innermost plural around this place chooses by. -/
  | pound
  deriving Inhabited

abbrev Pattern := List Element

abbrev Branches := Table Pattern

mutual

/-- The number of elements in an element, itself included. -/
def Element.size : Element → Nat
  | .plural _ _ _ branches => Branches.size branches + 1
  | .select _ branches => Branches.size branches + 1
  | .tag _ _ children => Pattern.size children + 1
  | .literal _ => 1
  | .argument _ => 1
  | .number .. => 1
  | .moment .. => 1
  | .emptyTag .. => 1
  | .pound => 1

def Pattern.size : List Element → Nat
  | [] => 0
  | e :: es => e.size + Pattern.size es

def Branches.size : List (String × List Element) → Nat
  | [] => 0
  | (_, es) :: bs => Pattern.size es + Branches.size bs

end

end Phrasebook
