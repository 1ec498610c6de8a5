import Phrasebook.Locale.Standard
import Phrasebook.Proofs.Binary64.Nearest

/-! # Numbers that are shown rounded

    Some styles show the nearest integer of a number and nothing else of it. A number
    that has no nearest integer of 64 bits is an error in each of them.
-/

namespace Phrasebook

namespace Locale

theorem rounded_of_nearestInteger? {x : Binary64} {n : Int} (h : x.nearestInteger? = some n)
    (hlow : -2 ^ 63 ≤ n) (hhigh : n < 2 ^ 63) :
    ∃ p, rounded (.real x) = .ok p ∧ p.toInt = n := by
  have hn : n = (Int64.ofInt n).toInt := (Int64.toInt_ofInt_of_le hlow hhigh).symm
  refine ⟨Int64.ofInt n, ?_, hn.symm⟩
  unfold rounded Quantity.rounded?
  simp only [h, Option.bind_some, Text.word?_eq_some_iff.mpr hn]

/-- A binary number is rounded to the integer nearest to it, a half going away from zero. -/
theorem rounded_of_roundsTo {x : Binary64} {p : Int64} (h : x.RoundsTo p.toInt) :
    rounded (.real x) = .ok p := by
  unfold rounded Quantity.rounded?
  simp only [Binary64.nearestInteger?_eq_some_iff.mpr h, Option.bind_some, Text.word?_toInt]

/-- The styles that show the nearest integer. -/
def roundingStyles : List NumberStyle :=
  [.integer, .ordinal, .duration]

/-- They do not tell numbers apart that are rounded alike. -/
theorem number_of_rounded (l : Locale) {style : NumberStyle} (hstyle : style ∈ roundingStyles)
    {q r : Quantity} (h : rounded q = rounded r) : l.number style q = l.number style r := by
  -- all three styles round first and then look at nothing but the rounded integer
  cases style with
  | integer =>
    show l.integerText q = l.integerText r
    unfold integerText
    rw [h]
  | ordinal =>
    show l.ordinalText q = l.ordinalText r
    unfold ordinalText
    rw [h]
  | duration =>
    show durationText q = durationText r
    unfold durationText
    rw [h]
  | plain | percent | currency | spellout => simp [roundingStyles] at hstyle

end Locale

end Phrasebook
