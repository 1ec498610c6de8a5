import Phrasebook.Proofs.Decimal.Shortest
import Phrasebook.Proofs.Locale.Rounded

/-! # Answers that go by the number

    An integer and a binary number can be one number: they have the same nearest binary
    number, are the same integer and show the same digits. A localizer goes by the
    number if it gives one answer to both, and the standard localizers do. An integer
    and the binary number of it are one number below `2^53`, also less an offset.
-/

namespace Phrasebook

/-! ### Quantities that are one number -/

namespace Quantity

/-- Two quantities are one number: in binary, as an integer and by the digits that they show. -/
structure Same (q r : Quantity) : Prop where
  nearest : q.toBinary64 = r.toBinary64
  integer : q.integer? = r.integer?
  digits : q.decimal? = r.decimal?

theorem Same.symm {q r : Quantity} (h : q.Same r) : r.Same q :=
  ⟨h.nearest.symm, h.integer.symm, h.digits.symm⟩

theorem rounded?_of_integer? {x : Binary64} {n : Int64} (h : (real x).integer? = some n) :
    (real x).rounded? = some n := by
  obtain ⟨k, hk, hword⟩ := Option.bind_eq_some_iff.mp h
  show x.nearestInteger?.bind Text.word? = some n
  rw [Binary64.nearestInteger?_of_integer? hk]
  exact hword

theorem Same.rounded {q r : Quantity} (h : q.Same r) : q.rounded? = r.rounded? := by
  -- a binary number that is the same as an integer is one, and is not rounded away from it
  have hmixed : ∀ {n : Int64} {x : Binary64}, Same (.integer n) (.real x) →
      rounded? (.integer n) = rounded? (.real x) :=
    fun hsame => (rounded?_of_integer? hsame.integer.symm).symm
  cases q with
  | integer n =>
    cases r with
    | integer m => exact h.integer
    | real y => exact hmixed h
  | real x =>
    cases r with
    | integer m => exact (hmixed h.symm).symm
    | real y =>
      obtain rfl : x = y := h.nearest
      rfl

/-- The text of a binary number with digits is made of these. -/
theorem text_of_decimal? {x : Binary64} {d : Decimal} (h : (real x).decimal? = some d) :
    (real x).text = d.text := by
  have hd : x.toDecimal? = some d := h
  cases x with
  | nan => cases hd
  | infinity negative => cases hd
  | finite negative m s hcanonical =>
    show ((Binary64.finite negative m s hcanonical).toDecimal?.map Decimal.text).getD "" = _
    rw [hd]
    rfl

theorem Same.text {q r : Quantity} (h : q.Same r) : q.text = r.text := by
  -- the text of a binary number is that of its digits, which are the digits of the integer
  have hmixed : ∀ {n : Int64} {x : Binary64}, Same (.integer n) (.real x) →
      Quantity.text (.integer n) = Quantity.text (.real x) := by
    intro n x hsame
    rw [text_of_decimal? hsame.digits.symm, Decimal.text_ofInt]
    rfl
  -- two integers or two binary numbers that are one number are even the same quantity
  cases q with
  | integer n =>
    cases r with
    | integer m =>
      obtain rfl : n = m := Option.some.inj h.integer
      rfl
    | real y => exact hmixed h
  | real x =>
    cases r with
    | integer m => exact (hmixed h.symm).symm
    | real y =>
      obtain rfl : x = y := h.nearest
      rfl

/-- An integer below `2^53` and its binary number are one number. -/
theorem same_ofInt {n : Int64} (h : n.toInt.natAbs < 2 ^ 53) :
    (real (.ofInt n.toInt)).Same (integer n) where
  nearest := rfl
  integer := by
    show (Binary64.ofInt n.toInt).integer?.bind Text.word? = some n
    rw [Binary64.integer?_ofInt (Binary64.representable_of_lt h)]
    exact Text.word?_toInt n
  digits := Binary64.toDecimal?_ofInt h

/-- So they are less an offset, as long as the offset and the difference are below `2^53` too. -/
theorem same_minus {n offset : Int64} (hn : n.toInt.natAbs < 2 ^ 53)
    (hoffset : offset.toInt.natAbs < 2 ^ 53)
    (hdifference : (n.toInt - offset.toInt).natAbs < 2 ^ 53) :
    ((real (.ofInt n.toInt)).minus offset).Same ((integer n).minus offset) := by
  by_cases hzero : offset = 0
  · subst hzero
    exact same_ofInt hn
  · -- the difference is far from the ends of 64 bits
    have hclamp : (Int64.ofIntClamp (n.toInt - offset.toInt)).toInt = n.toInt - offset.toInt := by
      have hmin : Int64.minValue.toInt = -2 ^ 63 := rfl
      have hmax : Int64.maxValue.toInt = 2 ^ 63 - 1 := rfl
      exact Int64.toInt_ofIntClamp (by omega) (by omega)
    have hsub : (Binary64.ofInt n.toInt).sub (.ofInt offset.toInt) =
        .ofInt (Int64.ofIntClamp (n.toInt - offset.toInt)).toInt := by
      rw [hclamp]
      exact Binary64.sub_ofInt (Binary64.representable_of_lt hn)
        (Binary64.representable_of_lt hoffset) (Binary64.representable_of_lt hdifference)
    simp only [minus, if_neg hzero, hsub]
    refine same_ofInt ?_
    rw [hclamp]
    exact hdifference

end Quantity

/-! ### Localizers that go by the number -/

namespace Localizer

/-- A localizer gives the same answers for two quantities. -/
structure AnswersAlike (l : Localizer) (q r : Quantity) : Prop where
  category : ∀ kind, l.category kind q = l.category kind r
  number : ∀ style, l.number style q = l.number style r

/-- A localizer gives the same answers for quantities that are one number. -/
def GoesByNumber (l : Localizer) : Prop :=
  ∀ q r : Quantity, q.Same r → l.AnswersAlike q r

end Localizer

namespace Locale

/-- One number has one plural category. -/
theorem category_congr (l : Locale) (kind : PluralKind) {q r : Quantity} (h : q.Same r) :
    l.category kind q = l.category kind r := by
  unfold category Operands.ofQuantity?
  rw [h.integer, h.digits, h.text]

theorem rounded_congr {q r : Quantity} (h : q.Same r) : rounded q = rounded r := by
  unfold rounded
  rw [h.rounded, h.text]

/-- One number is written in one way in each style. -/
theorem number_congr (l : Locale) (style : NumberStyle) {q r : Quantity} (h : q.Same r) :
    l.number style q = l.number style r := by
  -- each style looks at one of the three: the digits, the nearest binary number or the
  -- rounding
  cases style with
  | plain =>
    show l.plainText q = l.plainText r
    unfold plainText
    rw [h.digits, h.text]
  | percent =>
    show l.percentText q = l.percentText r
    unfold percentText
    rw [h.nearest]
  | currency =>
    show l.currencyText q = l.currencyText r
    unfold currencyText
    rw [h.nearest]
  | spellout =>
    show l.spelloutText q = l.spelloutText r
    unfold spelloutText
    rw [h.text]
  | integer | ordinal | duration =>
    apply l.number_of_rounded
    · decide
    · exact rounded_congr h

/-- **The standard localizers go by the number.** -/
theorem localizer_goesByNumber (l : Locale) : l.localizer.GoesByNumber := by
  intro q r h
  exact ⟨fun kind => l.category_congr kind h, fun style => l.number_congr style h⟩

end Locale

end Phrasebook
