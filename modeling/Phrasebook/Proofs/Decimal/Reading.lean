import Phrasebook.Decimal.Basic
import Phrasebook.Decimal.Numeral
import Phrasebook.Text.Blank

/-! # Decimals read back

    The characters of a decimal are read as a numeral with the sign, the digits and
    the scale of the decimal. They are read as an integer exactly when there is
    nothing behind a point.
-/

namespace Phrasebook

open Text

namespace Text

theorem toLower_of_isDigit {c : Char} (h : c.isDigit = true) : c.toLower = c := by
  have hdigit : 48 ≤ c.toNat ∧ c.toNat ≤ 57 := by
    simpa [Char.isDigit, UInt32.le_iff_toNat_le] using h
  have hupper : ¬ (65 ≤ c.toNat ∧ c.toNat ≤ 90) := by omega
  unfold Char.toLower
  split
  · next hletter =>
    refine absurd ?_ hupper
    simpa [UInt32.le_iff_toNat_le] using hletter
  · rfl

end Text

namespace Decimal

/-! ### The characters of a decimal -/

def magnitudeChars (d : Decimal) : List Char :=
  d.wholeDigits ++ ((if d.scale = 0 then [] else ['.']) ++ d.fractionDigits)

theorem chars_eq (d : Decimal) :
    d.chars = (if d.negative then ['-'] else []) ++ d.magnitudeChars := by
  unfold chars magnitudeChars
  simp only [List.append_assoc]

theorem chars_ofInt (n : Int) : (ofInt n).chars = integerChars n := by
  have hwhole : (ofInt n).wholeDigits = digits n.natAbs := by
    rw [wholeDigits, whole]
    show digits (n.natAbs / 10 ^ 0) = _
    rw [Nat.pow_zero, Nat.div_one]
  have hmagnitude : (ofInt n).magnitudeChars = digits n.natAbs := by
    show (ofInt n).wholeDigits ++ ([] ++ []) = _
    rw [hwhole, List.append_nil, List.append_nil]
  rw [chars_eq, hmagnitude, integerChars]
  show (if decide (n < 0) = true then ['-'] else []) ++ _ = _
  by_cases h : n < 0
  · simp [h]
  · simp [h]

theorem text_ofInt (n : Int) : (ofInt n).text = integerText n := by
  rw [text, chars_ofInt, integerText]

variable (d : Decimal)

theorem isDigit_of_mem_wholeDigits : ∀ c ∈ d.wholeDigits, c.isDigit = true :=
  fun _ hc => isDigit_of_mem_digits hc

theorem isDigit_of_mem_fractionDigits : ∀ c ∈ d.fractionDigits, c.isDigit = true := by
  intro c hc
  unfold fractionDigits at hc
  split at hc
  · exact absurd hc List.not_mem_nil
  · exact isDigit_of_mem_zeroPadded hc

/-- There are digits, and at most one point, in the characters without the sign. -/
theorem mem_magnitudeChars {c : Char} (h : c ∈ d.magnitudeChars) :
    c = '.' ∨ c.isDigit = true := by
  rcases List.mem_append.mp h with hwhole | hrest
  · exact Or.inr (d.isDigit_of_mem_wholeDigits c hwhole)
  · rcases List.mem_append.mp hrest with hpoint | hfraction
    · split at hpoint
      · exact absurd hpoint List.not_mem_nil
      · exact Or.inl (List.mem_singleton.mp hpoint)
    · exact Or.inr (d.isDigit_of_mem_fractionDigits c hfraction)

/-- A minus sign stands nowhere but in front. -/
theorem minus_not_mem_drop_chars (k : Nat) : '-' ∉ d.chars.drop (k + 1) := by
  have hnone : '-' ∉ d.magnitudeChars := by
    intro h
    rcases d.mem_magnitudeChars h with hpoint | hdigit
    · exact absurd hpoint (by decide)
    · exact absurd hdigit (by decide)
  rw [chars_eq]
  by_cases hsign : d.negative = true
  · rw [if_pos hsign]
    exact fun h => hnone (List.mem_of_mem_drop h)
  · rw [if_neg hsign]
    exact fun h => hnone (List.mem_of_mem_drop h)

theorem isBlank_of_mem_chars : ∀ c ∈ d.chars, isBlank c = false := by
  intro c hc
  rw [chars_eq] at hc
  rcases List.mem_append.mp hc with hsign | hmagnitude
  · split at hsign
    · rw [List.mem_singleton.mp hsign]
      decide
    · exact absurd hsign List.not_mem_nil
  · rcases d.mem_magnitudeChars hmagnitude with rfl | hdigit
    · decide
    · exact isBlank_of_isDigit hdigit

theorem trimChars_chars : trimChars d.chars = d.chars :=
  trimChars_eq_self d.isBlank_of_mem_chars

/-- The sign of a decimal is read off its characters. -/
theorem signed_chars : signed d.chars = (d.negative, d.magnitudeChars) := by
  rw [chars_eq]
  cases hsign : d.negative with
  | true => rfl
  | false => exact signed_append (digits_ne_nil _) d.isDigit_of_mem_wholeDigits _

/-! ### Reading numerals -/

/-- The digits on both sides of the point are read as the coefficient. -/
theorem natural?_digits : natural? (d.wholeDigits ++ d.fractionDigits) = some d.coefficient := by
  have hall : (d.wholeDigits ++ d.fractionDigits).all Char.isDigit = true := by
    refine List.all_eq_true.mpr fun c hc => ?_
    rcases List.mem_append.mp hc with hwhole | hfraction
    · exact d.isDigit_of_mem_wholeDigits c hwhole
    · exact d.isDigit_of_mem_fractionDigits c hfraction
  have hne : d.wholeDigits ++ d.fractionDigits ≠ [] :=
    List.append_ne_nil_of_left_ne_nil (digits_ne_nil _) _
  have hwhole : Nat.ofDigitChars 10 d.wholeDigits 0 = d.whole := Nat.ofDigitChars_ten_toDigits
  have hvalue : Nat.ofDigitChars 10 (d.wholeDigits ++ d.fractionDigits) 0 = d.coefficient := by
    rw [Nat.ofDigitChars_append, hwhole]
    unfold fractionDigits whole
    split
    · next hscale =>
      rw [hscale, Nat.pow_zero, Nat.div_one]
      rfl
    · next hscale =>
      have hfraction : d.fraction < 10 ^ d.scale := Nat.mod_lt _ (Nat.pow_pos (by decide))
      have hpadded : Nat.ofDigitChars 10 (zeroPadded d.scale d.fraction) 0 = d.fraction := by
        have hread := natural?_zeroPadded d.scale d.fraction
        unfold natural? at hread
        split at hread
        · cases hread
        · exact Option.some.inj hread
      -- the digits behind the point move those in front of it up by their number
      rw [Nat.ofDigitChars_eq_ofDigitChars_zero, hpadded,
        length_zeroPadded (Nat.pos_of_ne_zero hscale) hfraction]
      exact Nat.div_add_mod _ _
  have hempty : (d.wholeDigits ++ d.fractionDigits).isEmpty = false := by simpa using hne
  unfold natural?
  rw [hall, hempty, hvalue]
  rfl

/-- Without its sign a decimal is read as its coefficient and its scale. -/
theorem unsigned?_magnitudeChars (negative : Bool) :
    Numeral.unsigned? negative d.magnitudeChars =
      some (.decimal negative d.coefficient (-d.scale)) := by
  have hvalue := d.natural?_digits
  have hwhole := d.isDigit_of_mem_wholeDigits
  have hdigits := d.isDigit_of_mem_fractionDigits
  unfold Numeral.unsigned?
  by_cases hscale : d.scale = 0
  · -- the run of digits is all there is
    have hchars : d.magnitudeChars = d.wholeDigits ++ [] := by
      unfold magnitudeChars fractionDigits
      simp only [hscale, if_true, List.append_nil]
    have hnone : d.fractionDigits = [] := if_pos hscale
    rw [hnone] at hvalue
    rw [hchars, List.takeWhile_append_of_pos hwhole, List.dropWhile_append_of_pos hwhole]
    simp only [List.takeWhile_nil, List.dropWhile_nil, List.append_nil] at hvalue ⊢
    simp only [hvalue, Numeral.exponent?, hscale, List.length_nil]
    rfl
  · -- the point ends the first run, and behind the second there is no exponent
    have hchars : d.magnitudeChars = d.wholeDigits ++ '.' :: d.fractionDigits := by
      unfold magnitudeChars
      rw [if_neg hscale]
      rfl
    have hlength : d.fractionDigits.length = d.scale := by
      have hfraction : d.fraction < 10 ^ d.scale := Nat.mod_lt _ (Nat.pow_pos (by decide))
      rw [fractionDigits, if_neg hscale]
      exact length_zeroPadded (Nat.pos_of_ne_zero hscale) hfraction
    have hrun : d.fractionDigits.takeWhile Char.isDigit = d.fractionDigits := by
      have hall : (d.fractionDigits ++ []).takeWhile Char.isDigit = d.fractionDigits ++ [] :=
        List.takeWhile_append_of_pos hdigits
      simpa using hall
    have hbehind : d.fractionDigits.dropWhile Char.isDigit = [] := by
      have hall : (d.fractionDigits ++ []).dropWhile Char.isDigit = [] :=
        List.dropWhile_append_of_pos hdigits
      simpa using hall
    rw [hchars, List.takeWhile_append_of_pos hwhole, List.dropWhile_append_of_pos hwhole,
      List.takeWhile_cons_of_neg (by decide), List.dropWhile_cons_of_neg (by decide)]
    simp only [hrun, hbehind, List.append_nil, hvalue, Numeral.exponent?, hlength, Int.zero_sub]

/-- **The characters of a decimal are read as what it is**: its sign, its digits and its scale. -/
theorem ofChars?_chars :
    Numeral.ofChars? d.chars = some (.decimal d.negative d.coefficient (-d.scale)) := by
  -- the first digit tells the characters from the words for an infinity or for not-a-number
  have hword : ∀ word : String, (word.toList.head?.all fun c => !c.isDigit) = true →
      String.ofList (d.magnitudeChars.map Char.toLower) ≠ word := by
    rintro word hhead rfl
    obtain ⟨c, cs, hdigits⟩ := List.exists_cons_of_ne_nil (digits_ne_nil d.whole)
    have hc : c.isDigit = true := d.isDigit_of_mem_wholeDigits c (by
      rw [wholeDigits, hdigits]
      exact List.mem_cons_self)
    rw [magnitudeChars, wholeDigits, hdigits] at hhead
    simp [toLower_of_isDigit hc, hc] at hhead
  unfold Numeral.ofChars?
  simp only [d.signed_chars, hword "inf" (by decide), hword "infinity" (by decide),
    hword "nan" (by decide), or_self, if_false, unsigned?_magnitudeChars]

/-- The characters of a decimal are read as an integer if it has no place behind the point,
    and else as none. -/
theorem integer?_chars :
    integer? d.chars =
      if d.scale = 0 then some (if d.negative then -(d.coefficient : Int) else d.coefficient)
      else none := by
  unfold integer?
  rw [d.signed_chars]
  by_cases hscale : d.scale = 0
  · have hvalue := d.natural?_digits
    have hnone : d.fractionDigits = [] := if_pos hscale
    have hchars : d.magnitudeChars = d.wholeDigits ++ d.fractionDigits := by
      unfold magnitudeChars
      rw [if_pos hscale, List.nil_append]
    simp only [hchars, hvalue, if_pos hscale, Option.map_some]
  · have hpoint : '.' ∈ d.magnitudeChars := by
      unfold magnitudeChars
      rw [if_neg hscale]
      exact List.mem_append_right _ List.mem_cons_self
    simp only [natural?_of_mem hpoint (by decide), if_neg hscale, Option.map_none]

/-- What the characters of a decimal say about it if they are read as a word. -/
theorem of_int64?_chars {n : Int64} (h : int64? d.chars = some n) :
    d.scale = 0 ∧ (if d.negative then -(d.coefficient : Int) else d.coefficient) = n.toInt := by
  obtain ⟨k, hk, hword⟩ := Option.bind_eq_some_iff.mp h
  rw [d.integer?_chars] at hk
  split at hk
  · next hscale => exact ⟨hscale, (Option.some.inj hk).trans (word?_eq_some_iff.mp hword)⟩
  · cases hk

/-- A sign and digits that do not spell zero are those of the integer that they spell. -/
theorem eq_ofInt {negative : Bool} {c : Nat} {n : Int} (hc : c ≠ 0)
    (hvalue : (if negative then -(c : Int) else c) = n) :
    (⟨negative, c, 0⟩ : Decimal) = ofInt n := by
  cases negative with
  | true =>
    rw [if_pos rfl] at hvalue
    have hsign : true = decide (n < 0) := (decide_eq_true (by omega)).symm
    have hmagnitude : c = n.natAbs := by omega
    rw [ofInt, hsign, hmagnitude]
  | false =>
    rw [if_neg Bool.false_ne_true] at hvalue
    have hsign : false = decide (n < 0) := (decide_eq_false (by omega)).symm
    have hmagnitude : c = n.natAbs := by omega
    rw [ofInt, hsign, hmagnitude]

end Decimal

end Phrasebook
