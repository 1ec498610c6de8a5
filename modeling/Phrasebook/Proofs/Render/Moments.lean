import Phrasebook.Proofs.Calendar.Rfc3339
import Phrasebook.Proofs.Render.Readings

/-! # Moments given as text

    A moment that the internet form can hold and its text have the same readings, so
    they can take each other's place as arguments. The text reads back as the moment, a
    leap second included. It never spells a number, because of the mark behind its year.
-/

namespace Phrasebook

open Text

/-! ### The mark behind the year -/

section
variable {ds : List Char} (hds : ∀ c ∈ ds, c.isDigit = true) (cs : List Char)

include hds

/-- A run of digits with a mark behind it is no number without a sign. -/
theorem Numeral.unsigned?_of_mark (negative : Bool) :
    unsigned? negative (ds ++ '-' :: cs) = none := by
  have hwhole : (ds ++ '-' :: cs).takeWhile Char.isDigit = ds := by
    rw [List.takeWhile_append_of_pos hds, List.takeWhile_cons_of_neg (by decide), List.append_nil]
  have hrest : (ds ++ '-' :: cs).dropWhile Char.isDigit = '-' :: cs := by
    rw [List.dropWhile_append_of_pos hds, List.dropWhile_cons_of_neg (by decide)]
  have hexponent : exponent? ('-' :: cs) = none := by
    rw [exponent?, if_neg (by decide)]
  simp only [unsigned?, hwhole, hrest]
  split
  · next n e hn he =>
    -- the mark is no point, so it is where a power of ten would have to stand
    have he : exponent? ('-' :: cs) = some e := he
    rw [hexponent] at he
    cases he
  · rfl

/-- Nor is it one of the words for an infinity or for not-a-number. -/
theorem Numeral.ofChars?_of_mark (hne : ds ≠ []) : ofChars? (ds ++ '-' :: cs) = none := by
  have hsigned := signed_append hne hds ('-' :: cs)
  have hword : ∀ word : String, '-' ∉ word.toList →
      String.ofList ((ds ++ '-' :: cs).map Char.toLower) ≠ word := by
    rintro word hmark rfl
    refine hmark ?_
    rw [String.toList_ofList]
    exact List.mem_map.mpr ⟨'-', List.mem_append_right ds List.mem_cons_self, rfl⟩
  unfold ofChars?
  simp only [hsigned, hword "inf" (by decide), hword "infinity" (by decide),
    hword "nan" (by decide), or_self, if_false, unsigned?_of_mark hds]

/-- Digits, a mark and whatever follows spell no number of any kind. -/
theorem Value.quantity?_of_mark (hne : ds ≠ [])
    (htrim : trimChars (ds ++ '-' :: cs) = ds ++ '-' :: cs) :
    quantity? (.text (String.ofList (ds ++ '-' :: cs))) = none := by
  have hsigned := signed_append hne hds ('-' :: cs)
  -- each way to read a number stumbles over the mark
  have hnatural : natural? (ds ++ '-' :: cs) = none :=
    natural?_of_mem (List.mem_append_right ds List.mem_cons_self) (by decide)
  have hinteger : int64? (ds ++ '-' :: cs) = none := by
    simp only [int64?, integer?, hsigned, hnatural]
    rfl
  have hreal : Binary64.ofChars? (ds ++ '-' :: cs) = none := by
    rw [Binary64.ofChars?, Numeral.ofChars?_of_mark hds cs hne]
    rfl
  simp only [quantity?, String.toList_ofList, htrim, hinteger, hreal]
  rfl

end

/-! ### The characters of a moment -/

namespace Moment

theorem isBlank_of_mem_yearChars {year : Int} : ∀ c ∈ yearChars year, isBlank c = false := by
  have hpadded : ∀ c ∈ zeroPadded 4 year.natAbs, isBlank c = false :=
    fun c hc => isBlank_of_isDigit (isDigit_of_mem_zeroPadded hc)
  unfold yearChars
  split
  · exact hpadded
  · refine List.forall_mem_cons.mpr ⟨?_, hpadded⟩
    split
    · decide
    · decide

theorem isBlank_of_mem_fractionChars {nano : Nat} :
    ∀ c ∈ fractionChars nano, isBlank c = false := by
  have hpoint : ∀ width n, ∀ c ∈ '.' :: zeroPadded width n, isBlank c = false := by
    intro width n
    refine List.forall_mem_cons.mpr ⟨by decide, ?_⟩
    exact fun c hc => isBlank_of_isDigit (isDigit_of_mem_zeroPadded hc)
  unfold fractionChars
  split
  · simp
  · split
    · exact hpoint 3 _
    · split
      · exact hpoint 6 _
      · exact hpoint 9 _

theorem trimChars_rfc3339Chars (m : Moment) : trimChars m.rfc3339Chars = m.rfc3339Chars := by
  have hpadded : ∀ n, ∀ c ∈ zeroPadded 2 n, isBlank c = false :=
    fun n c hc => isBlank_of_isDigit (isDigit_of_mem_zeroPadded hc)
  have hminus : isBlank '-' = false := by decide
  have hcolon : isBlank ':' = false := by decide
  have hletter : isBlank 'T' = false := by decide
  have hsign : isBlank m.offset.sign = false := by
    unfold Offset.sign
    split
    · decide
    · decide
  refine trimChars_eq_self ?_
  -- the text part by part: the date, the time and the offset
  simp only [rfc3339Chars_eq, dateChars, timeChars, Offset.chars, List.forall_mem_append,
    List.forall_mem_cons]
  refine ⟨?date, hletter, ?time, ?offset⟩
  case date =>
    exact ⟨isBlank_of_mem_yearChars, hminus, hpadded _, hminus, hpadded _⟩
  case time =>
    exact ⟨hpadded _, hcolon, hpadded _, hcolon, hpadded _, isBlank_of_mem_fractionChars⟩
  case offset =>
    exact ⟨⟨⟨hsign, hpadded _⟩, hcolon, by simp⟩, hpadded _⟩

/-- A year of four digits starts the text of a moment, and a mark is behind it. -/
theorem rfc3339Chars_eq_year {m : Moment} (h : m.HasInternetForm) :
    ∃ cs, m.rfc3339Chars = zeroPadded 4 m.date.year.natAbs ++ '-' :: cs := by
  have hyear : yearChars m.date.year = zeroPadded 4 m.date.year.natAbs := if_pos h.year
  rw [rfc3339Chars_eq, dateChars, hyear, List.append_assoc, List.cons_append]
  exact ⟨_, rfl⟩

end Moment

/-! ### Spelling moments out -/

/-- The text of a moment that the internet form can hold has the readings of the moment. -/
theorem Value.sameReadings_rfc3339 {m : Moment} (h : m.HasInternetForm) :
    SameReadings (.text m.rfc3339) (.moment m) where
  shown := rfl
  quantity := by
    -- the text starts with a year and a mark, which no number does
    obtain ⟨cs, hcs⟩ := m.rfc3339Chars_eq_year h
    have htrim := m.trimChars_rfc3339Chars
    rw [hcs] at htrim
    have hne : zeroPadded 4 m.date.year.natAbs ≠ [] :=
      List.append_ne_nil_of_right_ne_nil _ (digits_ne_nil _)
    rw [Moment.rfc3339, hcs]
    exact quantity?_of_mark (fun c hc => isDigit_of_mem_zeroPadded hc) cs hne htrim
  moment := by
    show Moment.ofRfc3339Chars? (trimChars (String.ofList m.rfc3339Chars).toList) = some m
    rw [String.toList_ofList, m.trimChars_rfc3339Chars, Moment.ofRfc3339Chars?_rfc3339Chars h]
  handler := rfl

def Value.momentSpelled : Value → Value
  | moment m => text m.rfc3339
  | v => v

/-- **Moments and their texts are interchangeable.** Under any localizer, a template gives
    the same content and absences, or the same error, whichever moments among the arguments
    are given as their text, as long as the internet form can hold them. -/
theorem Template.moments_are_their_texts (t : Template) (localizer : Localizer)
    (arguments : Arguments) (chosen : String → Bool)
    (h : ∀ id m, chosen id = true → arguments id = some (.moment m) → m.HasInternetForm) :
    t.run ⟨arguments.respell Value.momentSpelled chosen, localizer⟩ =
      t.run ⟨arguments, localizer⟩ := by
  refine t.run_respell localizer ?_
  intro id v hchosen harg
  cases v with
  | moment m => exact Value.sameReadings_rfc3339 (h id m hchosen harg)
  | integer | real | text | handler => exact .refl _

/-- A leap second on a clock to the west, given as its text: the localizer is asked about the
    moment, and the choice goes by its text. -/
theorem Template.leap_second_given_as_text :
    let leap : Moment :=
      ⟨⟨2016, 12, 31, by decide⟩, ⟨23, 59, 59, 1500000000, by decide⟩, ⟨-5400, by decide⟩⟩
    let arguments := Arguments.ofList [("at", .moment leap)]
    let localizer : Localizer :=
      ⟨"und", fun _ _ => .ok .other, fun _ _ => .ok "",
        fun _ _ m => .ok (Text.integerText m.time.shownSecond)⟩
    let t : Template :=
      .sequence [.moment "at" .time .short,
        .select "at" [("2016-12-31T23:59:60.500-01:30", .literal " at last")] (.literal "")]
    leap.HasInternetForm ∧ arguments.respell Value.momentSpelled (· = "at") "at" =
        some (.text "2016-12-31T23:59:60.500-01:30") ∧
      (t.run ⟨arguments.respell Value.momentSpelled (· = "at"), localizer⟩).toOption.map
        (fun r => r.content.flatten) = some "60 at last" := by
  intro leap arguments localizer t
  have hform : leap.HasInternetForm := ⟨by decide, by decide⟩
  have hall : ∀ id m, (decide (id = "at")) = true → arguments id = some (.moment m) →
      m.HasInternetForm := by
    intro id m hid harg
    obtain rfl : id = "at" := of_decide_eq_true hid
    obtain rfl : leap = m := Value.moment.inj (Option.some.inj harg)
    exact hform
  have htext : leap.rfc3339 = "2016-12-31T23:59:60.500-01:30" := by decide +kernel
  refine ⟨hform, congrArg (fun s => some (Value.text s)) htext, ?_⟩
  rw [moments_are_their_texts t localizer arguments (· = "at") hall]
  decide +kernel

end Phrasebook
