import Phrasebook.Calendar.Date

/-! # Moments

    A moment is what a clock on a wall and the calendar beside it show, together
    with how far east of the meridian the wall stands.
-/

namespace Phrasebook

/-- The parts are those of a day's clock. In a leap second the second is 59 and
    the nanoseconds run through a second second. -/
def TimeOfDay.Valid (hour minute second nano : Nat) : Prop :=
  hour < 24 ∧ minute < 60 ∧ second < 60 ∧ nano < 2000000000 ∧
    (1000000000 ≤ nano → second = 59)

instance (hour minute second nano : Nat) : Decidable (TimeOfDay.Valid hour minute second nano) :=
  inferInstanceAs (Decidable (_ ∧ _ ∧ _ ∧ _ ∧ _))

/-- A time of day. -/
structure TimeOfDay where
  /-- The hour, from 0 to 23. -/
  hour : Nat
  /-- The minute, from 0 to 59. -/
  minute : Nat
  /-- The second, from 0 to 59. -/
  second : Nat
  /-- Nanoseconds of the second; a thousand million and more in a leap second. -/
  nano : Nat
  /-- The parts are in range. -/
  valid : TimeOfDay.Valid hour minute second nano
  deriving DecidableEq

namespace TimeOfDay

def of? (hour minute second nano : Nat) : Option TimeOfDay :=
  if h : Valid hour minute second nano then some ⟨hour, minute, second, nano, h⟩ else none

/-- The second as a clock that counts leap seconds shows it, up to 60. -/
def shownSecond (t : TimeOfDay) : Nat :=
  t.second + t.nano / 1000000000

/-- Nanoseconds within the shown second. -/
def fraction (t : TimeOfDay) : Nat :=
  t.nano % 1000000000

/-- Seconds since midnight, a leap second aside. -/
def seconds (t : TimeOfDay) : Nat :=
  t.hour * 3600 + t.minute * 60 + t.second

def dialHour (t : TimeOfDay) : Nat :=
  if t.hour % 12 = 0 then 12 else t.hour % 12

def isAfternoon (t : TimeOfDay) : Bool :=
  12 ≤ t.hour

end TimeOfDay

/-- How far east of the meridian a clock stands. -/
structure Offset where
  /-- Seconds to the east, negative to the west. -/
  seconds : Int
  /-- Less than a day either way. -/
  within : -86400 < seconds ∧ seconds < 86400
  deriving DecidableEq

namespace Offset

/-- The offset of so many seconds, if it is less than a day. -/
def of? (seconds : Int) : Option Offset :=
  if h : -86400 < seconds ∧ seconds < 86400 then some ⟨seconds, h⟩ else none

/-- The meridian itself. -/
def zero : Offset :=
  ⟨0, by decide⟩

end Offset

/-- A moment as a local calendar and clock show it. -/
structure Moment where
  /-- The local date. -/
  date : Date
  /-- The local time of day. -/
  time : TimeOfDay
  /-- The offset of the local clock. -/
  offset : Offset
  deriving DecidableEq

namespace Moment

/-- Seconds since the start of the year 1970 at the meridian. -/
def unixSeconds (m : Moment) : Int :=
  (m.date.dayNumber - 719163) * 86400 + m.time.seconds - m.offset.seconds

/-- The same moment on a clock at the meridian. A leap second keeps its place
    only where the shifted clock shows second 59. -/
def atMeridian (m : Moment) : Moment :=
  -- counted from the local midnight, so it is out of a day's range when the date differs
  let s := (m.time.seconds : Int) - m.offset.seconds
  let date := if s < 0 then m.date.previous else if 86400 ≤ s then m.date.next else m.date
  let n := (s % 86400).toNat
  let nano := if n % 60 = 59 then m.time.nano else m.time.fraction
  have hn : n < 86400 := by omega
  have hv := m.time.valid
  ⟨date, ⟨n / 3600, n / 60 % 60, n % 60, nano, by omega, by omega, by omega, by
    simp only [nano]; split
    · exact hv.2.2.2.1
    · simp only [TimeOfDay.fraction]; omega, by
    simp only [nano]; split
    · intro; assumption
    · simp only [TimeOfDay.fraction]; omega⟩, .zero⟩

end Moment

end Phrasebook
