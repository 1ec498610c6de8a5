import Phrasebook.Binary64.Rounding
import Phrasebook.Table

/-! # JSON values

    The values that a JSON text denotes. An integer that fits 64 bits, signed or
    unsigned, stays an integer; every other number is a binary one.
-/

namespace Phrasebook

/-- A JSON value. The members of an object form an ascending table. -/
inductive Json where
  | null
  | boolean (b : Bool)
  | integer (n : Int)
  | real (x : Binary64)
  | text (s : String)
  | array (items : List Json)
  | object (members : List (String × Json))
  deriving Inhabited

namespace Json

/-- Why a text is not JSON. -/
inductive Fault where
  /-- The text ends before its value is complete. -/
  | ended
  /-- A character stands where the grammar allows none of its kind. -/
  | malformed
  deriving DecidableEq, Repr

def text? : Json → Option String
  | text s => some s
  | _ => none

/-- The member of an object under a key; none for other values. -/
def member? (key : String) : Json → Option Json
  | object members => members.lookup key
  | _ => none

end Json

end Phrasebook
