import Phrasebook.Calendar.Rfc3339
import Phrasebook.Fragment
import Phrasebook.Number.Quantity
import Phrasebook.Text.Blank

/-! # Argument values

    What a message can be given under an id: a number, a text, a moment, or a
    handler for the markup tag of that id. A text that spells a number or a
    moment can be used as one.
-/

namespace Phrasebook

/-- A renderer for a markup tag. It is given the rendered children of a tag, or
    nothing for a tag that closes itself. -/
abbrev Handler := Option Fragment → Fragment

namespace Handler

/-- A handler for tags with children; a tag that closes itself counts as one around empty text. -/
def wrap (f : Fragment → Fragment) : Handler :=
  fun content => f (content.getD .empty)

def replace (result : Fragment) : Handler :=
  fun _ => result

end Handler

inductive Value where
  /-- An integer. -/
  | integer (n : Int64)
  /-- A binary number. -/
  | real (x : Binary64)
  /-- A text. -/
  | text (s : String)
  /-- A moment. -/
  | moment (m : Moment)
  /-- A handler for a tag. -/
  | handler (h : Handler)

namespace Value

/-- A natural number as a 64-bit integer; numbers from `2 ^ 63` on wrap to negative ones. -/
def ofWord (n : UInt64) : Value :=
  .integer n.toInt64

/-- The number that a value is, or that a text spells once trimmed: an integer
    if it can be read as one, else a binary number. -/
def quantity? : Value → Option Quantity
  | integer n => some (.integer n)
  | real x => some (.real x)
  | text s =>
    let cs := Text.trimChars s.toList
    match Text.int64? cs with
    | some n => some (.integer n)
    | none => (Binary64.ofChars? cs).map .real
  | moment _ => none
  | handler _ => none

def text? : Value → Option String
  | text s => some s
  | _ => none

def moment? : Value → Option Moment
  | moment m => some m
  | _ => none

def handler? : Value → Option Handler
  | handler h => some h
  | _ => none

/-- The moment that a value is, or that a text spells once trimmed. -/
def readMoment? : Value → Option Moment
  | moment m => some m
  | text s => Moment.ofRfc3339Chars? (Text.trimChars s.toList)
  | _ => none

/-- The text that a placeholder shows for a value and a choice compares with its keys;
    a handler has none. -/
def shown? : Value → Option String
  | integer n => some (Text.integerText n.toInt)
  | real x => some x.text
  | text s => some s
  | moment m => some m.rfc3339
  | handler _ => none

/-- The text of a value, a handler included. -/
def display (v : Value) : String :=
  v.shown?.getD "<handler>"

end Value

abbrev Arguments := String → Option Value

/-- The arguments of a list of bindings; of two bindings of one id the later counts. -/
def Arguments.ofList (bindings : List (String × Value)) : Arguments :=
  fun id => bindings.reverse.lookup id

end Phrasebook
