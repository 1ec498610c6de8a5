/-! # Calendar dates

    Days of the Gregorian calendar, extended to all years before and after its
    adoption; the year 0 comes before the year 1. Days are numbered so that
    1 January of the year 1, a Monday, has the number 1.
-/

namespace Phrasebook

def isLeapYear (year : Int) : Bool :=
  year % 4 == 0 && (year % 100 != 0 || year % 400 == 0)

/-- The number of days of a month, counted from January as 1. -/
def monthLength (year : Int) (month : Nat) : Nat :=
  if month = 2 then (if isLeapYear year then 29 else 28)
  else if month = 4 ∨ month = 6 ∨ month = 9 ∨ month = 11 then 30
  else 31

def Date.Valid (year : Int) (month day : Nat) : Prop :=
  1 ≤ month ∧ month ≤ 12 ∧ 1 ≤ day ∧ day ≤ monthLength year month

instance (year : Int) (month day : Nat) : Decidable (Date.Valid year month day) :=
  inferInstanceAs (Decidable (_ ∧ _ ∧ _ ∧ _))

/-- A day of the calendar. -/
structure Date where
  /-- The year, with a year 0 and negative years. -/
  year : Int
  /-- The month, from 1 to 12. -/
  month : Nat
  /-- The day of the month, from 1. -/
  day : Nat
  /-- The day exists. -/
  valid : Date.Valid year month day
  deriving DecidableEq

theorem monthLength_ge (year : Int) (month : Nat) : 28 ≤ monthLength year month := by
  unfold monthLength; split <;> split <;> omega

theorem monthLength_le (year : Int) (month : Nat) : monthLength year month ≤ 31 := by
  unfold monthLength; split <;> split <;> omega

namespace Date

def of? (year : Int) (month day : Nat) : Option Date :=
  if h : Valid year month day then some ⟨year, month, day, h⟩ else none

def next (d : Date) : Date :=
  if h : d.day < monthLength d.year d.month then
    ⟨d.year, d.month, d.day + 1, d.valid.1, d.valid.2.1, by omega, h⟩
  else if h : d.month < 12 then
    ⟨d.year, d.month + 1, 1, by omega, by omega, by omega,
      by have := monthLength_ge d.year (d.month + 1); omega⟩
  else ⟨d.year + 1, 1, 1, by omega, by omega, by omega, by simp [monthLength]⟩

def previous (d : Date) : Date :=
  if h : 1 < d.day then
    ⟨d.year, d.month, d.day - 1, d.valid.1, d.valid.2.1, by omega,
      by have := d.valid.2.2.2; omega⟩
  else if h : 1 < d.month then
    ⟨d.year, d.month - 1, monthLength d.year (d.month - 1), by omega,
      by have := d.valid.2.1; omega,
      by have := monthLength_ge d.year (d.month - 1); omega, by omega⟩
  else ⟨d.year - 1, 12, 31, by omega, by omega, by omega, by simp [monthLength]⟩

/-- The place of a day in its year, from 1. -/
def ordinal (d : Date) : Nat :=
  (List.range (d.month - 1)).foldl (fun days i => days + monthLength d.year (i + 1)) d.day

/-- The number of days before a year, counted from the start of the year 1. -/
def daysBefore (year : Int) : Int :=
  let y := year - 1
  365 * y + y / 4 - y / 100 + y / 400

def dayNumber (d : Date) : Int :=
  daysBefore d.year + d.ordinal

/-- The day of the week, with Sunday as 0. -/
def weekday (d : Date) : Nat :=
  (d.dayNumber % 7).toNat

/-- The day of the week, with Monday as 1 and Sunday as 7. -/
def isoWeekday (d : Date) : Nat :=
  if d.weekday = 0 then 7 else d.weekday

/-- The quarter of the year, from 1. -/
def quarter (d : Date) : Nat :=
  (d.month + 2) / 3

/-- The week of the year when weeks start on Sunday and days before the first one are in week 0. -/
def sundayWeek (d : Date) : Nat :=
  (d.ordinal + 6 - d.weekday) / 7

/-- The week of the year when weeks start on Monday and days before the first one are in week 0. -/
def mondayWeek (d : Date) : Nat :=
  (d.ordinal + 7 - d.isoWeekday) / 7

/-- The year and the week that a day belongs to when weeks start on Monday and
    the first week of a year is the one with its first Thursday. -/
def isoWeek (d : Date) : Int × Nat :=
  let thursday := d.dayNumber + 4 - d.isoWeekday
  let year :=
    if thursday ≤ daysBefore d.year then d.year - 1
    else if daysBefore (d.year + 1) < thursday then d.year + 1
    else d.year
  (year, ((thursday - daysBefore year - 1) / 7 + 1).toNat)

end Date

end Phrasebook
