import Phrasebook.Locale.Standard
import Phrasebook.Proofs.Binary64.Integers
import Phrasebook.Proofs.Traversal

/-! # Amounts of money

    The amount of an integer is that of the binary number nearest to it. This is an
    integer again, so all its minor units are zeros; it is the same integer just where
    that has no loss as a binary number. Above `2^53` there are integers that show the
    amount of a neighbour.
-/

namespace Phrasebook

open Text

/-! ### Fixed places of an integer -/

theorem Binary64.toFixed?_abs_of_integer? {x : Binary64} {k : Int} (h : x.integer? = some k)
    (places : Nat) : x.abs.toFixed? places = some ⟨false, k.natAbs * 10 ^ places, places⟩ := by
  cases x with
  | nan => cases h
  | infinity negative => cases h
  | finite negative m s hcanonical =>
    show some (Decimal.mk false (roundedQuotient (m * 2 ^ s * 10 ^ places) one) places) = _
    rw [units_of_integer? h, Nat.mul_right_comm, roundedQuotient_mul _ one_pos]

namespace NumberSymbols

/-- No minor units: the separator and zeros, if there are places for them. -/
def minorZeros (s : NumberSymbols) (places : Nat) : List Char :=
  if places = 0 then [] else s.decimal.toList ++ List.replicate places (s.numbering.write '0')

theorem zeroPadded_zero {places : Nat} (h : places ≠ 0) :
    zeroPadded places 0 = List.replicate places '0' := by
  show List.replicate (places - 1) '0' ++ ['0'] = List.replicate places '0'
  rw [← List.replicate_succ', Nat.sub_add_cancel (Nat.pos_of_ne_zero h)]

/-- An integer with zeros for its minor units is written as the integer, with the zeros
    behind the separator. -/
theorem chars_with_minorZeros (s : NumberSymbols) (k places : Nat) :
    s.chars ⟨false, k * 10 ^ places, places⟩ = s.chars (.ofInt k) ++ s.minorZeros places := by
  have hpower : (0 : Nat) < 10 ^ places := Nat.pow_pos (by decide)
  have hwhole : s.wholeChars ⟨false, k * 10 ^ places, places⟩ = s.wholeChars (.ofInt k) := by
    have hdigits : Decimal.wholeDigits ⟨false, k * 10 ^ places, places⟩ =
        (Decimal.ofInt k).wholeDigits := by
      show digits (k * 10 ^ places / 10 ^ places) = digits (k / 10 ^ 0)
      rw [Nat.mul_div_cancel k hpower, Nat.pow_zero, Nat.div_one]
    unfold wholeChars
    rw [hdigits]
  -- the fraction is a remainder by a power of ten that divides the coefficient
  have hfraction : s.fractionChars ⟨false, k * 10 ^ places, places⟩ = s.minorZeros places := by
    unfold fractionChars minorZeros
    by_cases hplaces : places = 0
    · rw [if_pos hplaces, if_pos hplaces]
    · have hdigits : Decimal.fractionDigits ⟨false, k * 10 ^ places, places⟩ =
          List.replicate places '0' := by
        show (if places = 0 then [] else zeroPadded places (k * 10 ^ places % 10 ^ places)) = _
        rw [if_neg hplaces, Nat.mul_mod_left, zeroPadded_zero hplaces]
      rw [if_neg hplaces, if_neg hplaces, hdigits, List.map_replicate]
  -- the integer itself has no sign and no fraction
  have hinteger : s.chars (.ofInt k) = s.wholeChars (.ofInt k) := by
    have hsign : ¬ (k : Int) < 0 := by omega
    simp [chars, fractionChars, Decimal.ofInt, hsign]
  rw [hinteger]
  unfold chars
  rw [hwhole, hfraction]
  rfl

end NumberSymbols

/-! ### The amount of an integer -/

theorem Affixes.apply_sign (a : Affixes) (negative : Bool) (digits symbol : List Char) :
    a.apply negative digits symbol =
      (if negative then ['-'] else []) ++ a.apply false digits symbol := by
  simp [apply]

namespace Locale

/-- The amount of a number whose binary number is an integer. -/
theorem currencyText_of_integer? (l : Locale) {q : Quantity} {k : Int}
    (h : q.toBinary64.integer? = some k) :
    l.currencyText q = .ok (String.ofList
      (l.tag.currencyAffixes.apply q.toBinary64.isBelowZero
        (l.data.symbols.chars (.ofInt k.natAbs) ++
          l.data.symbols.minorZeros (Currency.ofCode l.currency).places)
        (Currency.ofCode l.currency).symbol.toList)) := by
  unfold currencyText
  simp only [Binary64.toFixed?_abs_of_integer? h, NumberSymbols.chars_with_minorZeros]

/-- **Amounts of integers.** Every integer has an amount in every currency. It shows the
    magnitude of the integer that is the nearest binary number, with all digits and a zero
    for each minor unit, behind a minus sign just for a negative integer. The magnitude is
    that of the integer itself exactly where this has no loss as a binary number, as it has
    none below `2^53`. -/
theorem amount_of_integer (l : Locale) (n : Int64) :
    ∃ k : Int, (Binary64.ofInt n.toInt).integer? = some k ∧
      l.number .currency (.integer n) = .ok (String.ofList
        ((if n.toInt < 0 then ['-'] else []) ++
          l.tag.currencyAffixes.apply false
            (l.data.symbols.chars (.ofInt k.natAbs) ++
              l.data.symbols.minorZeros (Currency.ofCode l.currency).places)
            (Currency.ofCode l.currency).symbol.toList)) ∧
      (k = n.toInt ↔ Binary64.Representable n.toInt.natAbs) ∧
      (n.toInt.natAbs < 2 ^ 53 → k = n.toInt) := by
  have hbound : n.toInt.natAbs < 2 ^ 64 := by
    have hlow := n.le_toInt
    have hhigh := n.toInt_lt
    omega
  obtain ⟨k, hk⟩ := Binary64.exists_integer?_ofInt (by omega) hbound
  -- the number shown is the nearest one, which is the integer itself just if it has no loss
  have hexact : k = n.toInt ↔ Binary64.Representable n.toInt.natAbs := by
    constructor
    · rintro rfl
      exact Binary64.representable_of_integer? hk
    · intro hrepresentable
      rw [Binary64.integer?_ofInt hrepresentable] at hk
      exact (Option.some.inj hk).symm
  refine ⟨k, hk, ?_, hexact, ?_⟩
  · have htext := currencyText_of_integer? l (q := .integer n) hk
    have hsign : (Quantity.integer n).toBinary64.isBelowZero = decide (n.toInt < 0) :=
      Binary64.isBelowZero_ofInt n.toInt
    -- the sign is taken out of the affixes, so that the magnitude stands between them
    rw [hsign, Affixes.apply_sign] at htext
    simp only [decide_eq_true_eq] at htext
    exact htext
  · intro hsmall
    exact hexact.mpr (Binary64.representable_of_lt hsmall)

/-- **From `2^53` on an integer can show the amount of its neighbour**, which is a wrong
    price by one. -/
theorem amount_of_neighbour :
    english.number .currency (.integer 9007199254740993) = .ok "$9,007,199,254,740,992.00" ∧
      english.number .currency (.integer Int64.maxValue) =
        .ok "$9,223,372,036,854,775,808.00" := by
  decide +kernel

end Locale

end Phrasebook
