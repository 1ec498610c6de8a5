import Phrasebook.Text.Blank

/-! # Styles

    The keywords by which a pattern asks for a rule set or a rendering: whether a
    plural counts or ranks, how a number is written, whether a moment shows its
    date or its time, and at which length.
-/

namespace Phrasebook

/-- Which plural rules choose a branch. -/
inductive PluralKind where
  /-- Rules for counting: one file, two files. -/
  | cardinal
  /-- Rules for ranking: 1st, 2nd. -/
  | ordinal
  deriving DecidableEq, Repr

def PluralKind.ofKeyword? (keyword : String) : Option PluralKind :=
  if keyword = "plural" then some .cardinal
  else if keyword = "selectordinal" then some .ordinal
  else none

/-- How a number is written. -/
inductive NumberStyle where
  /-- All digits of the number, grouped. -/
  | plain
  /-- The nearest integer, grouped. -/
  | integer
  /-- A hundred times the number, with a percent sign. -/
  | percent
  /-- An amount of money. -/
  | currency
  /-- Words. -/
  | spellout
  /-- A rank such as 1st. -/
  | ordinal
  /-- Hours, minutes and seconds. -/
  | duration
  deriving DecidableEq, Repr

namespace NumberStyle

def name : NumberStyle → String
  | plain => "default"
  | integer => "integer"
  | percent => "percent"
  | currency => "currency"
  | spellout => "spellout"
  | ordinal => "ordinal"
  | duration => "duration"

/-- The styles that have a keyword of their own. -/
def keyed : List NumberStyle :=
  [integer, percent, currency, spellout, ordinal, duration]

/-- The style that a keyword names, blanks around it aside. No keyword and any
    other word mean the plain style. -/
def ofKeyword (keyword : Option String) : NumberStyle :=
  match keyword with
  | none => plain
  | some word => (keyed.find? fun style => style.name = Text.trim word).getD plain

end NumberStyle

/-- Which half of a moment is shown. -/
inductive TemporalKind where
  | date
  | time
  deriving DecidableEq, Repr

namespace TemporalKind

def name : TemporalKind → String
  | date => "date"
  | time => "time"

def ofKeyword? (keyword : String) : Option TemporalKind :=
  if keyword = "date" then some date
  else if keyword = "time" then some time
  else none

end TemporalKind

/-- At which length, or by which pattern of its own, a date or a time is written. -/
inductive TemporalStyle where
  | short
  | medium
  | long
  | full
  /-- A pattern of field letters behind percent signs. -/
  | named (pattern : String)
  deriving DecidableEq, Repr

namespace TemporalStyle

/-- The name of a style; a named style is called by its pattern. -/
def name : TemporalStyle → String
  | short => "short"
  | medium => "medium"
  | long => "long"
  | full => "full"
  | named pattern => pattern

/-- The style that a keyword names, blanks around it aside. No keyword and a
    blank one mean the medium length; any other word is a pattern. -/
def ofKeyword (keyword : Option String) : TemporalStyle :=
  match keyword.map Text.trim with
  | none => medium
  | some word =>
    if word = "" ∨ word = "medium" then medium
    else if word = "short" then short
    else if word = "long" then long
    else if word = "full" then full
    else named word

end TemporalStyle

end Phrasebook
