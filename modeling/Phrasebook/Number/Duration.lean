import Phrasebook.Text.Digits

/-! # Durations

    A number of seconds on a clock: minutes and seconds, and hours in front if
    there are any. The field in front is not padded.
-/

namespace Phrasebook

open Text

/-- The clock layout of a number of seconds. -/
def durationChars (total : Int) : List Char :=
  let n := total.natAbs
  let hours := n / 3600
  let minutes := n % 3600 / 60
  let seconds := n % 60
  (if total < 0 then ['-'] else []) ++
    (if hours = 0 then digits minutes else digits hours ++ ':' :: zeroPadded 2 minutes) ++
    ':' :: zeroPadded 2 seconds

def durationText (total : Int) : String :=
  String.ofList (durationChars total)

end Phrasebook
