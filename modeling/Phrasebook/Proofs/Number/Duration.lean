import Phrasebook.Proofs.Locale.Rounded
import Phrasebook.Proofs.Traversal

/-! # Durations as they are written

    A duration is written in two or three fields between colons. The form of the fields
    is fixed: the field in front has no leading zero, every other field has two digits,
    and there are hours only if there is a whole hour. The fields are read back as
    a number of seconds, so two durations have one text only if they are the same.

    The least integer of 64 bits is a duration like any other: its magnitude is taken as
    a natural number.
-/

namespace Phrasebook

open Text

namespace Text

/-! ### Fields of digits -/

/-- A natural number without leading zeros: only the number zero starts with a zero. -/
structure Unpadded (cs : List Char) : Prop where
  isNumber : (natural? cs).isSome = true
  leadingZero : cs.head? = some '0' → cs = ['0']

/-- Two digits, from `00` to `59`. -/
structure OfSixty (cs : List Char) : Prop where
  twoDigits : cs.length = 2
  belowSixty : ∃ n < 60, natural? cs = some n

theorem head?_digits_ne {n : Nat} (h : n ≠ 0) : (digits n).head? ≠ some '0' := by
  -- strong induction, as the digits are those of a tenth with one more behind them
  induction n using Nat.strongRecOn with
  | _ n ih =>
    show (Nat.toDigits 10 n).head? ≠ some '0'
    rw [Nat.toDigits_eq_if (by decide)]
    by_cases hsmall : n < 10
    · have hdigit : ∀ k < 10, k ≠ 0 → k.digitChar ≠ '0' := by decide
      rw [if_pos hsmall, List.head?_cons]
      intro hzero
      exact hdigit n hsmall h (Option.some.inj hzero)
    · -- the first digit is that of a tenth of the number
      have htenth : (digits (n / 10)).head? ≠ some '0' := ih (n / 10) (by omega) (by omega)
      rw [if_neg hsmall, List.head?_append_of_ne_nil _ Nat.toDigits_ne_nil]
      exact htenth

theorem unpadded_digits (n : Nat) : Unpadded (digits n) := by
  constructor
  · rw [natural?_digits]
    rfl
  · by_cases hn : n = 0
    · intro _
      rw [hn]
      rfl
    · intro hzero
      exact absurd hzero (head?_digits_ne hn)

theorem ofSixty_zeroPadded {n : Nat} (h : n < 60) : OfSixty (zeroPadded 2 n) := by
  constructor
  · apply length_zeroPadded (by decide)
    omega
  · exact ⟨n, h, natural?_zeroPadded 2 n⟩

end Text

/-! ### The form of a duration -/

/-- What is written of a duration: a sign and two or three fields of digits. -/
structure DurationFields where
  /-- There is a minus sign in front. -/
  negative : Bool
  /-- The field of the hours, if there is one. -/
  hours : Option (List Char)
  minutes : List Char
  seconds : List Char

namespace DurationFields

/-- The fields in the order in which they are written. -/
def fields (f : DurationFields) : List (List Char) :=
  f.hours.toList ++ [f.minutes, f.seconds]

/-- The text of the fields: `m:ss`, or `h:mm:ss` if there are hours. -/
def text (f : DurationFields) : String :=
  String.ofList ((if f.negative then ['-'] else []) ++ [':'].intercalate f.fields)

/-- The form that a number of seconds has in fields. -/
structure Shows (f : DurationFields) (total : Int) : Prop where
  sign : f.negative = true ↔ total < 0
  /-- There is a field for the hours exactly from one hour on. -/
  hours : f.hours.isSome = true ↔ 3600 ≤ total.natAbs
  hoursInFront : ∀ hours, f.hours = some hours → Unpadded hours
  /-- Behind hours the minutes have two digits. -/
  minutesBehind : f.hours.isSome = true → OfSixty f.minutes
  /-- In front they have no leading zero. -/
  minutesInFront : f.hours = none → Unpadded f.minutes
  seconds : OfSixty f.seconds

/-- The number of seconds that fields between colons stand for. -/
def secondsOf? (fields : List (List Char)) : Option Nat :=
  match fields.map natural? with
  | [some minutes, some seconds] => some (60 * minutes + seconds)
  | [some hours, some minutes, some seconds] => some (3600 * hours + 60 * minutes + seconds)
  | _ => none

/-- Read a text as a number of seconds. -/
def read? (s : String) : Option Int :=
  let (negative, rest) := signed s.toList
  (secondsOf? (rest.splitOn ':')).map fun (total : Nat) =>
    if negative then -(total : Int) else total

/-! ### What is written -/

def ofSeconds (total : Int) : DurationFields :=
  let n := total.natAbs
  let minutes := n % 3600 / 60
  let seconds := zeroPadded 2 (n % 60)
  if n < 3600 then ⟨total < 0, none, digits minutes, seconds⟩
  else ⟨total < 0, some (digits (n / 3600)), zeroPadded 2 minutes, seconds⟩

theorem ofSeconds_of_lt {total : Int} (h : total.natAbs < 3600) :
    ofSeconds total =
      ⟨total < 0, none, digits (total.natAbs % 3600 / 60), zeroPadded 2 (total.natAbs % 60)⟩ :=
  if_pos h

theorem ofSeconds_of_le {total : Int} (h : 3600 ≤ total.natAbs) :
    ofSeconds total =
      ⟨total < 0, some (digits (total.natAbs / 3600)),
        zeroPadded 2 (total.natAbs % 3600 / 60), zeroPadded 2 (total.natAbs % 60)⟩ :=
  if_neg (Nat.not_lt.mpr h)

/-- A duration is written in the fields of its seconds. -/
theorem text_ofSeconds (total : Int) : (ofSeconds total).text = durationText total := by
  rcases Nat.lt_or_ge total.natAbs 3600 with hshort | hlong
  · have hhours : total.natAbs / 3600 = 0 := by omega
    rw [ofSeconds_of_lt hshort]
    simp [text, fields, durationText, durationChars, hhours]
  · have hhours : total.natAbs / 3600 ≠ 0 := by omega
    rw [ofSeconds_of_le hlong]
    simp [text, fields, durationText, durationChars, hhours]

/-- These fields have the form of a duration. -/
theorem shows_ofSeconds (total : Int) : (ofSeconds total).Shows total := by
  have hseconds : OfSixty (zeroPadded 2 (total.natAbs % 60)) :=
    ofSixty_zeroPadded (Nat.mod_lt _ (by decide))
  rcases Nat.lt_or_ge total.natAbs 3600 with hshort | hlong
  · rw [ofSeconds_of_lt hshort]
    constructor
    case sign => exact decide_eq_true_iff
    case hours => simp [hshort]
    case hoursInFront => exact fun _ h => nomatch h
    case minutesBehind => exact fun h => nomatch h
    case minutesInFront => exact fun _ => unpadded_digits _
    case seconds => exact hseconds
  · have hminutes : total.natAbs % 3600 / 60 < 60 := by omega
    rw [ofSeconds_of_le hlong]
    constructor
    case sign => exact decide_eq_true_iff
    case hours => simp [hlong]
    case hoursInFront =>
      intro hours h
      rw [← Option.some.inj h]
      exact unpadded_digits _
    case minutesBehind => exact fun _ => ofSixty_zeroPadded hminutes
    case minutesInFront => exact fun h => nomatch h
    case seconds => exact hseconds

/-! ### Reading it back -/

/-- Where every field is a number, the fields are read from between the colons. -/
theorem read?_text {f : DurationFields}
    (h : ∀ cs ∈ f.fields, cs ≠ [] ∧ ∀ c ∈ cs, c.isDigit = true) :
    read? f.text = (secondsOf? f.fields).map fun (total : Nat) =>
      if f.negative then -(total : Int) else total := by
  have hne : f.fields ≠ [] := by simp [fields]
  have hcolon : ∀ cs ∈ f.fields, ':' ∉ cs := by
    intro cs hcs hmem
    exact absurd ((h cs hcs).2 ':' hmem) (by decide)
  have hsplit : ([':'].intercalate f.fields).splitOn ':' = f.fields :=
    List.splitOn_intercalate ':' hcolon hne
  -- the first field starts with a digit, so it carries no sign of its own
  have hunsigned : signed ([':'].intercalate f.fields) = (false, [':'].intercalate f.fields) := by
    obtain ⟨first, rest, hfields⟩ := List.exists_cons_of_ne_nil hne
    obtain ⟨hfirst, hdigits⟩ := h first (hfields ▸ List.mem_cons_self)
    rw [hfields]
    cases rest with
    | nil =>
      rw [List.intercalate_singleton]
      have hsigned := signed_append hfirst hdigits []
      rwa [List.append_nil] at hsigned
    | cons second rest =>
      rw [List.intercalate_cons_cons, List.append_assoc]
      exact signed_append hfirst hdigits _
  have hsigned : signed f.text.toList = (f.negative, [':'].intercalate f.fields) := by
    unfold text
    rw [String.toList_ofList]
    cases f.negative with
    | true => rfl
    | false => exact hunsigned
  unfold read?
  simp only [hsigned, hsplit]

theorem isDigit_of_mem_fields (total : Int) :
    ∀ cs ∈ (ofSeconds total).fields, cs ≠ [] ∧ ∀ c ∈ cs, c.isDigit = true := by
  have hdigits : ∀ n, digits n ≠ [] ∧ ∀ c ∈ digits n, c.isDigit = true :=
    fun n => ⟨digits_ne_nil n, fun _ hc => isDigit_of_mem_digits hc⟩
  have hpadded : ∀ n, zeroPadded 2 n ≠ [] ∧ ∀ c ∈ zeroPadded 2 n, c.isDigit = true :=
    fun n => ⟨List.append_ne_nil_of_right_ne_nil _ (digits_ne_nil n),
      fun _ hc => isDigit_of_mem_zeroPadded hc⟩
  intro cs hcs
  rcases Nat.lt_or_ge total.natAbs 3600 with hshort | hlong
  · rw [ofSeconds_of_lt hshort] at hcs
    rcases List.mem_pair.mp hcs with hminutes | hseconds
    · rw [hminutes]
      exact hdigits _
    · rw [hseconds]
      exact hpadded _
  · rw [ofSeconds_of_le hlong] at hcs
    rcases List.mem_cons.mp hcs with hhours | hbehind
    · rw [hhours]
      exact hdigits _
    · rcases List.mem_pair.mp hbehind with hminutes | hseconds
      · rw [hminutes]
        exact hpadded _
      · rw [hseconds]
        exact hpadded _

theorem secondsOf?_ofSeconds (total : Int) :
    secondsOf? (ofSeconds total).fields = some total.natAbs := by
  rcases Nat.lt_or_ge total.natAbs 3600 with hshort | hlong
  · rw [ofSeconds_of_lt hshort]
    show secondsOf? [_, _] = _
    simp only [secondsOf?, List.map_cons, List.map_nil, natural?_digits, natural?_zeroPadded,
      Option.some.injEq]
    omega
  · rw [ofSeconds_of_le hlong]
    show secondsOf? [_, _, _] = _
    simp only [secondsOf?, List.map_cons, List.map_nil, natural?_digits, natural?_zeroPadded,
      Option.some.injEq]
    omega

/-- **A number of seconds is read back from its fields.** -/
theorem read?_ofSeconds (total : Int) : read? (ofSeconds total).text = some total := by
  have hsign : (ofSeconds total).negative = true ↔ total < 0 := (shows_ofSeconds total).sign
  rw [read?_text (isDigit_of_mem_fields total), secondsOf?_ofSeconds]
  show some (if (ofSeconds total).negative = true then -(total.natAbs : Int) else total.natAbs) = _
  by_cases hnegative : total < 0
  · rw [if_pos (hsign.mpr hnegative)]
    congr 1
    omega
  · rw [if_neg (mt hsign.mp hnegative)]
    congr 1
    omega

end DurationFields

namespace Locale

theorem duration_of_integer (l : Locale) (t : Int64) :
    l.number .duration (.integer t) = .ok (DurationFields.ofSeconds t.toInt).text := by
  rw [DurationFields.text_ofSeconds]
  rfl

/-- **Durations tell their seconds.** In every locale each integer of 64 bits is written as a
    duration, in the form of fields that its magnitude asks for, and is read back from them;
    so different integers are written differently. A binary number is written as the integer
    that it is rounded to, a half going away from zero. -/
theorem durations_tell_seconds (l : Locale) :
    (∀ t : Int64, ∃ f : DurationFields,
      l.number .duration (.integer t) = .ok f.text ∧ f.Shows t.toInt ∧
        DurationFields.read? f.text = some t.toInt) ∧
    (∀ t t' : Int64,
      l.number .duration (.integer t) = l.number .duration (.integer t') → t = t') ∧
    ∀ (x : Binary64) (t : Int64), x.RoundsTo t.toInt →
      l.number .duration (.real x) = l.number .duration (.integer t) := by
  -- the form is read off the fields, and that they are read back makes the text injective
  refine ⟨?_, ?_, ?_⟩
  · intro t
    exact ⟨.ofSeconds t.toInt, l.duration_of_integer t,
      DurationFields.shows_ofSeconds t.toInt, DurationFields.read?_ofSeconds t.toInt⟩
  · intro t t' hsame
    rw [duration_of_integer, duration_of_integer] at hsame
    have htext : (DurationFields.ofSeconds t.toInt).text =
        (DurationFields.ofSeconds t'.toInt).text := Except.ok.inj hsame
    have hread := DurationFields.read?_ofSeconds t.toInt
    rw [htext, DurationFields.read?_ofSeconds] at hread
    exact (Int64.toInt_inj.mp (Option.some.inj hread)).symm
  · intro x t hrounds
    have hstyle : NumberStyle.duration ∈ roundingStyles := by decide
    exact l.number_of_rounded hstyle (rounded_of_roundsTo hrounds)

/-- The least integer, and a time that is an hour only once it is rounded. -/
theorem duration_of_half_second_to_an_hour :
    english.number .duration (.integer Int64.minValue) = .ok "-2562047788015215:30:08" ∧
      DurationFields.read? "-2562047788015215:30:08" = some Int64.minValue.toInt ∧
      (Binary64.ofRatio true 7199 2).RoundsTo (-3600 : Int64).toInt ∧
      english.number .duration (.real (.ofRatio true 7199 2)) = .ok "-1:00:00" := by
  obtain ⟨hinteger, -, hreal⟩ := durations_tell_seconds english
  have hleast : english.number .duration (.integer Int64.minValue) =
      .ok "-2562047788015215:30:08" := by decide
  have hrounds : (Binary64.ofRatio true 7199 2).RoundsTo (-3600 : Int64).toInt := by
    decide +kernel
  refine ⟨hleast, ?_, hrounds, ?_⟩
  · obtain ⟨f, htext, -, hread⟩ := hinteger Int64.minValue
    rw [Except.ok.inj (hleast.symm.trans htext)]
    exact hread
  · rw [hreal _ _ hrounds]
    decide

end Locale

end Phrasebook
