import Phrasebook.Proofs.Locale.Rounded
import Phrasebook.Proofs.Traversal

/-! # Percentages

    A percentage is computed on binary numbers. For an integer this is exact as long
    as a hundred times the integer is itself the magnitude of a binary number; above
    that the digits shown are those of a rounded number.

    Of what was computed the sign and the magnitude are shown apart. The least integer
    of 64 bits has no magnitude within 64 bits, and shows that of the greatest one.
-/

namespace Phrasebook

/-! ### What stands around a percentage -/

namespace Affixes

/-- Without a place for a symbol an affix stands as it is. -/
theorem withSymbol_eq_self {affix : List Char} (h : currencySign ∉ affix) (symbol : List Char) :
    withSymbol symbol affix = affix := by
  induction affix with
  | nil => rfl
  | cons c cs ih =>
    obtain ⟨hc, hcs⟩ := not_or.mp (mt List.mem_cons.mpr h)
    have hplain : withSymbol symbol (c :: cs) = c :: withSymbol symbol cs := by
      simp [withSymbol, Ne.symm hc]
    rw [hplain, ih hcs]

theorem spacing_none (c : Option Char) : spacing c none = [] := by
  simp [spacing]

/-- Affixes without a place for a symbol are put around the digits as they are. -/
theorem apply_without_symbol {a : Affixes} (hbefore : currencySign ∉ a.before)
    (hbehind : currencySign ∉ a.behind) (negative : Bool) (digits : List Char) :
    a.apply negative digits [] =
      (if negative then ['-'] else []) ++ a.before ++ digits ++ a.behind := by
  unfold apply
  rw [withSymbol_eq_self hbefore, withSymbol_eq_self hbehind]
  simp only [List.getLast?_nil, List.head?_nil, spacing_none, List.append_nil]

end Affixes

namespace LanguageTag

theorem mem_numberPatterns (tag : LanguageTag) :
    tag.numberPatterns ∈ NumberPatterns.root :: NumberPatterns.table.map Prod.snd := by
  have hfound : ∀ key patterns, NumberPatterns.table.lookup key = some patterns →
      patterns ∈ NumberPatterns.root :: NumberPatterns.table.map Prod.snd := fun key patterns h =>
    List.mem_cons_of_mem _ (List.mem_map_of_mem (f := Prod.snd) (Table.mem_of_lookup h))
  unfold numberPatterns
  split
  · next patterns h => exact hfound _ _ h
  · cases h : NumberPatterns.table.lookup tag.language with
    | none => exact List.mem_cons_self
    | some patterns => exact hfound _ _ h

/-- No locale has a place for a currency in its percentages. -/
theorem currencySign_not_mem_percentAffixes (tag : LanguageTag) :
    currencySign ∉ tag.percentAffixes.before ∧ currencySign ∉ tag.percentAffixes.behind := by
  have hall : ∀ patterns ∈ NumberPatterns.root :: NumberPatterns.table.map Prod.snd,
      currencySign ∉ (Affixes.ofPattern patterns.percent.toList).before ∧
        currencySign ∉ (Affixes.ofPattern patterns.percent.toList).behind := by
    decide
  exact hall _ tag.mem_numberPatterns

end LanguageTag

/-! ### A hundred times an integer -/

namespace Binary64

theorem representable_hundred : Representable (100 : Int).natAbs :=
  representable_of_lt (by decide)

/-- A factor of a hundred can be taken off without loss: its odd part goes into the
    mantissa and its even part into the scale. -/
theorem Representable.of_hundred_mul {k : Nat} (h : Representable (k * 100)) :
    Representable k := by
  obtain ⟨m, s, hm, hs, hk⟩ := h
  by_cases hscale : 2 ≤ s
  · -- a hundred is 25 times four, and the scale has the four
    obtain ⟨r, rfl⟩ : ∃ r, s = r + 2 := ⟨s - 2, by omega⟩
    have hquarter : k * 25 = m * 2 ^ r := by
      rw [Nat.pow_add, ← Nat.mul_assoc] at hk
      omega
    -- a power of two has no factor in common with 25
    have hcoprime : Nat.Coprime 25 (2 ^ r) := Nat.Coprime.pow_right r (by decide)
    have hdvd : 25 ∣ m := hcoprime.dvd_of_dvd_mul_right ⟨k, by rw [← hquarter, Nat.mul_comm]⟩
    obtain ⟨q, rfl⟩ := hdvd
    refine ⟨q, r, by omega, by omega, ?_⟩
    rw [Nat.mul_assoc] at hquarter
    omega
  · have hsmall : (2 ^ s : Nat) ≤ 2 := by
      have hpow : (2 ^ s : Nat) ≤ 2 ^ 1 := Nat.pow_le_pow_right (by decide) (by omega)
      simpa using hpow
    have hle : m * 2 ^ s ≤ m * 2 := Nat.mul_le_mul_left m hsmall
    exact representable_of_lt (by omega)

/-- A hundred times an integer has no loss below `2^55`, as it is a multiple of four. -/
theorem representable_hundred_mul {k : Nat} (h : k * 100 < 2 ^ 55) : Representable (k * 100) :=
  ⟨k * 25, 2, by omega, by omega, by omega⟩

end Binary64

namespace Locale

/-- Multiplying an integer by a hundred on binary numbers is exact where the product
    has no loss. -/
theorem nearestInteger?_hundred_mul {n : Int}
    (hexact : Binary64.Representable (n * 100).natAbs) :
    ((Binary64.ofInt n).mul (.ofInt 100)).nearestInteger? = some (n * 100) := by
  have hmagnitude : (n * 100).natAbs = n.natAbs * 100 := Int.natAbs_mul n 100
  have hn : Binary64.Representable n.natAbs := by
    rw [hmagnitude] at hexact
    exact hexact.of_hundred_mul
  rw [Binary64.mul_ofInt hn Binary64.representable_hundred (by decide) hexact]
  exact Binary64.nearestInteger?_of_integer? (Binary64.integer?_ofInt hexact)

theorem percentText_of_rounded (l : Locale) {q : Quantity} {p : Int64}
    (h : rounded (.real (q.toBinary64.mul (.ofInt 100))) = .ok p) :
    l.percentText q = .ok (String.ofList (l.tag.percentAffixes.apply (p < 0)
      (l.data.symbols.chars (.ofInt (Int64.ofIntClamp p.toInt.natAbs).toInt)) [])) := by
  rw [percentText, h]
  rfl

/-- **Percentages of integers.** A hundred times an integer, if it is within 64 bits and a
    mantissa of 53 bits shifted left, is shown with all its digits: those of its magnitude
    in groups, between what the locale puts around a percentage, after a minus sign for a
    negative integer. -/
theorem percent_of_integer (l : Locale) (n : Int64)
    (hexact : Binary64.Representable (n.toInt * 100).natAbs)
    (hlow : -2 ^ 63 < n.toInt * 100) (hhigh : n.toInt * 100 < 2 ^ 63) :
    l.number .percent (.integer n) = .ok (String.ofList
      ((if n.toInt < 0 then ['-'] else []) ++ l.tag.percentAffixes.before ++
        l.data.symbols.chars (.ofInt (n.toInt * 100).natAbs) ++
        l.tag.percentAffixes.behind)) := by
  obtain ⟨p, hrounded, hp⟩ :=
    rounded_of_nearestInteger? (nearestInteger?_hundred_mul hexact) (Int.le_of_lt hlow) hhigh
  -- the affixes have no place for a symbol, so what stands around the digits is fixed text
  obtain ⟨hbefore, hbehind⟩ := l.tag.currencySign_not_mem_percentAffixes
  have hsign : p < 0 ↔ n.toInt < 0 := by
    rw [Int64.lt_iff_toInt_lt, hp, Int64.toInt_zero]
    omega
  -- the magnitude stays within the range, as the least integer is left out
  have hmagnitude : (Int64.ofIntClamp p.toInt.natAbs).toInt = (n.toInt * 100).natAbs := by
    have hmin : Int64.minValue.toInt = -2 ^ 63 := rfl
    have hmax : Int64.maxValue.toInt = 2 ^ 63 - 1 := rfl
    rw [hp]
    exact Int64.toInt_ofIntClamp (by omega) (by omega)
  have htext := percentText_of_rounded l (q := .integer n) hrounded
  rw [hmagnitude, Affixes.apply_without_symbol hbefore hbehind] at htext
  simp only [decide_eq_true_eq, hsign] at htext
  exact htext

/-- The largest integer that is shown exactly because it is small. -/
theorem percent_of_largest_small_integer :
    Binary64.Representable ((360287970189639 : Int64).toInt * 100).natAbs ∧
      english.number .percent (.integer 360287970189639) = .ok "36,028,797,018,963,900%" := by
  have hn : ((360287970189639 : Int64).toInt * 100).natAbs = 360287970189639 * 100 := by decide
  have hexact : Binary64.Representable ((360287970189639 : Int64).toInt * 100).natAbs := by
    rw [hn]
    exact Binary64.representable_hundred_mul (by decide)
  refine ⟨hexact, ?_⟩
  rw [percent_of_integer english 360287970189639 hexact (by decide) (by decide)]
  decide +kernel

/-- **Two integers later a unit is lost.** A percentage that has a place in 64 bits is not
    shown at all where it is rounded to a number that has none. -/
theorem percent_of_integer_is_rounded :
    english.number .percent (.integer 360287970189641) = .ok "36,028,797,018,964,096%" ∧
      english.number .percent (.integer 92233720368547758) =
        .error (.invalidNumber "9223372036854776000") := by
  decide +kernel

/-! ### The sign and the magnitude of a percentage -/

def percentMagnitude (p : Int64) : Nat :=
  if p = Int64.minValue then 2 ^ 63 - 1 else p.toInt.natAbs

/-- The magnitude that a percentage shows stops at the largest integer of 64 bits. -/
theorem toInt_clamp_natAbs (p : Int64) :
    (Int64.ofIntClamp p.toInt.natAbs).toInt = percentMagnitude p := by
  unfold percentMagnitude
  by_cases hleast : p = Int64.minValue
  · subst hleast
    decide
  · have hmin : Int64.minValue.toInt = -2 ^ 63 := rfl
    have hmax : Int64.maxValue.toInt = 2 ^ 63 - 1 := rfl
    have hne : p.toInt ≠ -2 ^ 63 := fun h => hleast (Int64.toInt_inj.mp (h.trans hmin.symm))
    have hlow := p.le_toInt
    have hhigh := p.toInt_lt
    rw [if_neg hleast]
    exact Int64.toInt_ofIntClamp (by omega) (by omega)

/-- **Percentages show what was computed.** If a hundred times a number, computed on binary
    numbers, is rounded to an integer of 64 bits, then the text is a minus sign if that
    integer is negative, and what the locale puts around a percentage, with the digits of
    the magnitude of the integer in between. Only for the least integer the digits are
    those of the magnitude less one. -/
theorem percent_shows_rounded_product (l : Locale) {q : Quantity} {p : Int64}
    (h : (q.toBinary64.mul (.ofInt 100)).RoundsTo p.toInt) :
    l.number .percent q = .ok (String.ofList
      ((if p.toInt < 0 then ['-'] else []) ++ l.tag.percentAffixes.before ++
        l.data.symbols.chars (.ofInt (percentMagnitude p)) ++
        l.tag.percentAffixes.behind)) := by
  obtain ⟨hbefore, hbehind⟩ := l.tag.currencySign_not_mem_percentAffixes
  have hsign : p < 0 ↔ p.toInt < 0 := by
    rw [Int64.lt_iff_toInt_lt, Int64.toInt_zero]
  have htext := percentText_of_rounded l (rounded_of_roundsTo h)
  rw [toInt_clamp_natAbs, Affixes.apply_without_symbol hbefore hbehind] at htext
  simp only [decide_eq_true_eq, hsign] at htext
  exact htext

/-- A loss of four per mille is rounded to no loss, and shows no sign. -/
theorem percent_of_small_loss :
    let loss : Quantity := .real (.ofRatio true 4 1000)
    (loss.toBinary64.mul (.ofInt 100)).RoundsTo (0 : Int64).toInt ∧
      english.number .percent loss = .ok "0%" := by
  intro loss
  have hrounds : (loss.toBinary64.mul (.ofInt 100)).RoundsTo (0 : Int64).toInt := by
    decide +kernel
  refine ⟨hrounds, ?_⟩
  rw [percent_shows_rounded_product english hrounds]
  decide +kernel

/-- **The least percentage shows another magnitude** than the one that was computed, which
    ends in an eight. -/
theorem percent_of_least_integer :
    let debt : Quantity := .integer (-92233720368547758)
    (debt.toBinary64.mul (.ofInt 100)).RoundsTo Int64.minValue.toInt ∧
      Int64.minValue.toInt.natAbs = 9223372036854775808 ∧
      english.number .percent debt = .ok "-9,223,372,036,854,775,807%" := by
  decide +kernel

end Locale

end Phrasebook
