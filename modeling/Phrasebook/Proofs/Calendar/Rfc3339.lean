import Phrasebook.Calendar.Rfc3339
import Phrasebook.Text.Blank

/-! # Moments read back

    The text of a moment reads back as the moment, as long as the form can hold it: a
    year of four digits without a sign, and an offset of whole minutes. Every time of
    day is read back to the nanosecond, the leap second at the end of a minute included.

    Each reader is shown to take off a text just what the writer beside it has put in
    front, whatever stands behind.
-/

namespace Phrasebook

open Text

/-- The internet form can hold a moment: its year has four digits, and its offset is a
    whole number of minutes. -/
structure Moment.HasInternetForm (m : Moment) : Prop where
  year : 0 ≤ m.date.year ∧ m.date.year ≤ 9999
  offset : m.offset.seconds % 60 = 0

namespace Moment

/-! ### Fields and marks -/

theorem field?_zeroPadded (width n : Nat) (hwidth : 0 < width) (h : n < 10 ^ width)
    (rest : List Char) : field? width (zeroPadded width n ++ rest) = some (n, rest) := by
  have hlength : (zeroPadded width n).length = width := length_zeroPadded hwidth h
  have htake : (zeroPadded width n ++ rest).take width = zeroPadded width n :=
    List.take_left' hlength
  have hdrop : (zeroPadded width n ++ rest).drop width = rest := List.drop_left' hlength
  rw [field?, htake, hdrop, hlength, if_neg (Nat.lt_irrefl width), natural?_zeroPadded]
  rfl

theorem mark?_cons {marks : List Char} {c : Char} (h : c ∈ marks) (rest : List Char) :
    mark? marks (c :: rest) = some rest :=
  if_pos h

/-! ### Fractions of a second -/

/-- A character that neither goes on with a run of digits nor starts a fraction. -/
def EndsFraction (c : Char) : Prop :=
  c.isDigit = false ∧ c ≠ '.'

/-- A point and up to nine digits are read as so many billionths of a second. -/
theorem nanos?_digits {width n : Nat} (hwidth : 0 < width) (hmost : width ≤ 9)
    (h : n < 10 ^ width) {c : Char} (hc : EndsFraction c) (rest : List Char) :
    nanos? ('.' :: (zeroPadded width n ++ c :: rest)) =
      some (n * 10 ^ (9 - width), c :: rest) := by
  have hlength : (zeroPadded width n).length = width := length_zeroPadded hwidth h
  have hdigits : ∀ d ∈ zeroPadded width n, d.isDigit = true :=
    fun d hd => isDigit_of_mem_zeroPadded hd
  have hrun : (zeroPadded width n ++ c :: rest).takeWhile Char.isDigit = zeroPadded width n := by
    rw [List.takeWhile_append_of_pos hdigits, List.takeWhile_cons_of_neg (by simp [hc.1]),
      List.append_nil]
  have hbehind : (zeroPadded width n ++ c :: rest).dropWhile Char.isDigit = c :: rest := by
    rw [List.dropWhile_append_of_pos hdigits, List.dropWhile_cons_of_neg (by simp [hc.1])]
  have htake : (zeroPadded width n).take 9 = zeroPadded width n :=
    List.take_of_length_le (by omega)
  simp only [nanos?, hrun, hbehind, htake, natural?_zeroPadded, hlength]
  rfl

/-- A fraction reads back in nanoseconds, in however many digits it is written. -/
theorem nanos?_fractionChars {nano : Nat} (h : nano < 10 ^ 9) {c : Char} (hc : EndsFraction c)
    (rest : List Char) : nanos? (fractionChars nano ++ c :: rest) = some (nano, c :: rest) := by
  unfold fractionChars
  split
  · next hzero =>
    subst hzero
    -- no fraction is written, and the mark behind it does not start one
    show nanos? (c :: rest) = some (0, c :: rest)
    unfold nanos?
    split
    · next heq => exact absurd (List.cons.inj heq).1 hc.2
    · rfl
  · -- each of the three forms leaves out only digits that are zero
    split
    · next hmillis =>
      have hvalue : nano / 1000000 * 10 ^ 6 = nano := by omega
      rw [List.cons_append, nanos?_digits (by decide) (by decide) (by omega) hc, hvalue]
    · split
      · next hmicros =>
        have hvalue : nano / 1000 * 10 ^ 3 = nano := by omega
        rw [List.cons_append, nanos?_digits (by decide) (by decide) (by omega) hc, hvalue]
      · have hvalue : nano * 10 ^ 0 = nano := Nat.mul_one nano
        rw [List.cons_append, nanos?_digits (by decide) (by decide) h hc, hvalue]

/-! ### Dates and times of day -/

theorem dateOf?_parts (d : Date) : Date.of? d.year d.month d.day = some d :=
  dif_pos d.valid

/-- A time of day comes back from its shown second and the fraction of it. -/
theorem timeOf?_parts (t : TimeOfDay) :
    timeOf? t.hour t.minute t.shownSecond t.fraction = some t := by
  have hvalid := t.valid
  obtain ⟨_, _, hsecond, hnano, hleap⟩ := hvalid
  unfold timeOf? TimeOfDay.shownSecond TimeOfDay.fraction
  by_cases h : 1000000000 ≤ t.nano
  · -- a leap second shows as second 60
    have hlast : t.second = 59 := hleap h
    have hshown : t.second + t.nano / 1000000000 = 60 := by omega
    have hwhole : t.nano % 1000000000 + 1000000000 = t.nano := by omega
    rw [if_pos hshown, hwhole, ← hlast]
    exact dif_pos t.valid
  · have hshown : t.second + t.nano / 1000000000 = t.second := by omega
    have hwhole : t.nano % 1000000000 = t.nano := by omega
    rw [hshown, hwhole, if_neg (by omega)]
    exact dif_pos t.valid

def dateChars (d : Date) : List Char :=
  yearChars d.year ++ '-' :: (zeroPadded 2 d.month ++ '-' :: zeroPadded 2 d.day)

def timeChars (t : TimeOfDay) : List Char :=
  zeroPadded 2 t.hour ++ ':' :: (zeroPadded 2 t.minute ++
    ':' :: (zeroPadded 2 t.shownSecond ++ fractionChars t.fraction))

/-- A moment is written as a date, a time of day and an offset. -/
theorem rfc3339Chars_eq (m : Moment) :
    m.rfc3339Chars = dateChars m.date ++ 'T' :: (timeChars m.time ++ m.offset.chars [':']) := by
  simp [rfc3339Chars, dateChars, timeChars]

theorem date?_dateChars {d : Date} (hyear : 0 ≤ d.year ∧ d.year ≤ 9999) (rest : List Char) :
    date? (dateChars d ++ rest) = some (d, rest) := by
  -- every part fits the width that it is written in, so each field reads back by itself
  obtain ⟨_, hmonth, _, hday⟩ := d.valid
  have hlength := monthLength_le d.year d.month
  have hyearField := field?_zeroPadded 4 d.year.natAbs (by decide) (by omega)
  have hmonthField := field?_zeroPadded 2 d.month (by decide) (by omega)
  have hdayField := field?_zeroPadded 2 d.day (by decide) (by omega)
  have hvalue : (d.year.natAbs : Int) = d.year := by omega
  simp only [date?, dateChars, yearChars, if_pos hyear, List.append_assoc, List.cons_append,
    hyearField, hmonthField, hdayField, mark?_cons (List.mem_singleton_self '-'),
    Option.bind_eq_bind, Option.bind_some, hvalue, dateOf?_parts]
  rfl

/-- A time of day is read back in front of any character that ends its fraction. -/
theorem time?_timeChars (t : TimeOfDay) {c : Char} (hc : EndsFraction c) (rest : List Char) :
    time? (timeChars t ++ c :: rest) = some (t, c :: rest) := by
  obtain ⟨hhour, hminute, hsecond, hnano, hleap⟩ := t.valid
  -- the shown second is the only part that can reach 60
  have hshown : t.shownSecond ≤ 60 := by
    unfold TimeOfDay.shownSecond
    omega
  have hfraction : t.fraction < 10 ^ 9 := Nat.mod_lt _ (by decide)
  have hhourField := field?_zeroPadded 2 t.hour (by decide) (by omega)
  have hminuteField := field?_zeroPadded 2 t.minute (by decide) (by omega)
  have hsecondField := field?_zeroPadded 2 t.shownSecond (by decide) (by omega)
  simp only [time?, timeChars, List.append_assoc, List.cons_append, hhourField, hminuteField,
    hsecondField, mark?_cons (List.mem_singleton_self ':'), nanos?_fractionChars hfraction hc,
    Option.bind_eq_bind, Option.bind_some, timeOf?_parts]
  rfl

/-! ### Offsets -/

theorem endsFraction_sign (o : Offset) : EndsFraction o.sign := by
  unfold Offset.sign
  split
  · exact ⟨rfl, by decide⟩
  · exact ⟨rfl, by decide⟩

/-- What is behind the sign of an offset: hours, a mark and minutes. -/
def clockChars (minutes : Nat) : List Char :=
  zeroPadded 2 (minutes / 60) ++ ':' :: zeroPadded 2 (minutes % 60)

/-- Hours and minutes are read as an offset to the east or to the west. -/
theorem hoursAndMinutes_clockChars {minutes : Nat} (h : minutes < 6000) (west : Bool) :
    (do
      let (hours, cs) ← field? 2 (clockChars minutes)
      let cs ← mark? [':'] cs
      let (minutes, cs) ← field? 2 cs
      if cs.isEmpty ∧ minutes < 60 then
        let n : Int := ((hours * 60 + minutes) * 60 : Nat)
        Offset.of? (if west then -n else n)
      else none) =
      Offset.of? (if west then -((minutes * 60 : Nat) : Int) else (minutes * 60 : Nat)) := by
  have hhours := field?_zeroPadded 2 (minutes / 60) (by decide) (by omega)
  have hminutes := field?_zeroPadded 2 (minutes % 60) (by decide) (by omega) []
  rw [List.append_nil] at hminutes
  have hend : List.isEmpty ([] : List Char) = true ∧ minutes % 60 < 60 :=
    ⟨rfl, Nat.mod_lt _ (by decide)⟩
  have hwhole : (minutes / 60 * 60 + minutes % 60) * 60 = minutes * 60 := by omega
  simp only [clockChars, hhours, hminutes, mark?_cons (List.mem_singleton_self ':'),
    Option.bind_eq_bind, Option.bind_some, if_pos hend, hwhole]

/-- Behind its sign, an offset is read from the minutes that it has. -/
theorem offset?_clockChars {sign : Char} {west : Bool}
    (hsign : sign = '+' ∧ west = false ∨ sign = '-' ∧ west = true)
    {minutes : Nat} (h : minutes < 6000) :
    offset? (sign :: clockChars minutes) =
      Offset.of? (if west then -((minutes * 60 : Nat) : Int) else (minutes * 60 : Nat)) := by
  unfold offset?
  -- the text is longer than the one letter that stands for the meridian
  split
  · next heq => simp [clockChars, zeroPadded] at heq
  · next heq => simp [clockChars, zeroPadded] at heq
  · next c cs _ _ heq =>
    obtain ⟨rfl, rfl⟩ := List.cons.inj heq
    obtain ⟨rfl, rfl⟩ | ⟨rfl, rfl⟩ := hsign
    · rw [if_pos rfl, Option.bind_eq_bind, Option.bind_some]
      exact hoursAndMinutes_clockChars h false
    · dsimp only
      rw [if_neg (by decide), if_pos (Or.inl rfl), Option.bind_eq_bind, Option.bind_some]
      exact hoursAndMinutes_clockChars h true
  · next heq => exact absurd heq (List.cons_ne_nil _ _)

theorem offset?_chars {o : Offset} (h : o.seconds % 60 = 0) : offset? (o.chars [':']) = some o := by
  obtain ⟨hlow, hhigh⟩ := o.within
  have hminutes : o.roundedMinutes * 60 = o.seconds.natAbs := by
    unfold Offset.roundedMinutes
    omega
  have hchars : o.chars [':'] = o.sign :: clockChars o.roundedMinutes := by
    simp [Offset.chars, clockChars]
  have hread : Offset.of? o.seconds = some o := dif_pos o.within
  rw [hchars]
  by_cases hwest : o.seconds < 0
  · have hsign : o.sign = '-' := if_pos hwest
    have hvalue : -((o.roundedMinutes * 60 : Nat) : Int) = o.seconds := by omega
    rw [offset?_clockChars (.inr ⟨hsign, rfl⟩) (by omega), if_pos rfl, hvalue, hread]
  · have hsign : o.sign = '+' := if_neg hwest
    have hvalue : ((o.roundedMinutes * 60 : Nat) : Int) = o.seconds := by omega
    rw [offset?_clockChars (.inl ⟨hsign, rfl⟩) (by omega), if_neg Bool.false_ne_true, hvalue, hread]

/-! ### Moments -/

/-- **Reading back**: the text of a moment that the internet form can hold denotes the
    moment. -/
theorem ofRfc3339Chars?_rfc3339Chars {m : Moment} (h : m.HasInternetForm) :
    ofRfc3339Chars? m.rfc3339Chars = some m := by
  -- the sign of the offset ends the fraction of the second
  have hoffset : m.offset.chars [':'] = m.offset.sign :: (m.offset.chars [':']).tail := rfl
  have htime : time? (timeChars m.time ++ m.offset.chars [':']) =
      some (m.time, m.offset.chars [':']) := by
    rw [hoffset]
    exact time?_timeChars m.time (endsFraction_sign m.offset) _
  have hmark : 'T' ∈ ['T', 't', ' '] := by decide
  rw [rfc3339Chars_eq]
  simp only [ofRfc3339Chars?, date?_dateChars h.year, mark?_cons hmark, htime,
    offset?_chars h.offset, Option.bind_eq_bind, Option.bind_some]
  rfl

end Moment

end Phrasebook
