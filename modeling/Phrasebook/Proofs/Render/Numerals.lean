import Phrasebook.Proofs.Render.Readings

/-! # Integers given as text

    An integer and its decimal text have the same readings, so they can take each
    other's place as arguments. The text reads back as the integer over the whole range
    of 64 bits, and it never is a moment.
-/

namespace Phrasebook

/-! ### The decimal text of an integer -/

namespace Text

theorem trimChars_integerText (n : Int) : trimChars (integerText n).toList = integerChars n := by
  rw [integerText, String.toList_ofList]
  refine trimChars_eq_self fun c hc => ?_
  rcases mem_integerChars hc with rfl | hdigit
  · decide
  · exact isBlank_of_isDigit hdigit

end Text

namespace Moment

theorem mark?_of_not_mem {cs : List Char} (h : '-' ∉ cs) : mark? ['-'] cs = none := by
  cases cs with
  | nil => rfl
  | cons c cs =>
    have hc : c ≠ '-' := fun heq => h (heq ▸ List.mem_cons_self)
    simp [mark?, hc]

/-- A text without a mark behind the place of a year is no moment. -/
theorem ofRfc3339Chars?_of_not_mem {cs : List Char} (h : '-' ∉ cs.drop 4) :
    ofRfc3339Chars? cs = none := by
  -- a date needs a mark behind its year
  have hdate : date? cs = none := by
    unfold date? field?
    split
    · rfl
    · cases Text.natural? (cs.take 4) with
      | none => rfl
      | some year =>
        simp only [Option.map_some, Option.bind_eq_bind, Option.bind_some, mark?_of_not_mem h,
          Option.bind_none]
  rw [ofRfc3339Chars?, hdate]
  rfl

/-- The decimal text of an integer is no moment: where the mark behind a year would
    stand, there is a digit or nothing. -/
theorem ofRfc3339Chars?_integerChars (n : Int) :
    ofRfc3339Chars? (Text.integerChars n) = none := by
  refine ofRfc3339Chars?_of_not_mem fun hmark => ?_
  have hdigit := Text.isDigit_of_mem_drop_integerChars hmark
  exact absurd hdigit (by decide)

end Moment

/-- The decimal text of an integer has the readings of the integer. -/
theorem Value.sameReadings_integerText (n : Int64) :
    SameReadings (.text (Text.integerText n.toInt)) (.integer n) where
  shown := rfl
  quantity := by
    have hread : Text.int64? (Text.trimChars (Text.integerText n.toInt).toList) = some n := by
      rw [Text.trimChars_integerText, Text.int64?_integerChars]
    simp only [quantity?, hread]
  moment := by
    rw [readMoment?, Text.trimChars_integerText, Moment.ofRfc3339Chars?_integerChars]
    rfl
  handler := rfl

/-- The least integer, which has no positive counterpart, reads back as well. -/
example : Value.quantity? (.text "-9223372036854775808") = some (.integer Int64.minValue) := by
  decide +kernel

/-! ### Spelling integers out -/

def Value.spelled : Value → Value
  | integer n => text (Text.integerText n.toInt)
  | v => v

theorem Value.sameReadings_spelled (v : Value) : v.spelled.SameReadings v := by
  cases v with
  | integer n => exact sameReadings_integerText n
  | real | text | moment | handler => exact .refl _

/-- **Integers and their decimal texts are interchangeable.** Under any localizer, a template
    gives the same content and absences, or the same error, whichever integers among the
    arguments are given as their decimal text. -/
theorem Template.integers_are_their_texts (t : Template) (localizer : Localizer)
    (arguments : Arguments) (chosen : String → Bool) :
    t.run ⟨arguments.respell Value.spelled chosen, localizer⟩ =
      t.run ⟨arguments, localizer⟩ := by
  apply t.run_respell localizer
  intro id v _ _
  exact v.sameReadings_spelled

end Phrasebook
