import Mathlib.Algebra.Order.Ring.Abs
import Mathlib.Data.Rat.Cast.Order
import Mathlib.Tactic.Linarith
import Phrasebook.Proofs.Binary64.Nearest

/-! # Exact values

    A finite binary number is a rational number. Which integer it is, and which integer it
    is rounded to, is said elsewhere by counting units; the same can be said by its value.
-/

namespace Phrasebook

namespace Binary64

/-- The rational number that a finite number is. -/
def value? (x : Binary64) : Option ℚ :=
  x.signedUnits?.map fun (u : ℤ) => (u : ℚ) / one

section
variable {x : Binary64} {n : ℤ} {q : ℚ}

theorem one_pos_rat : (0 : ℚ) < one :=
  Nat.cast_pos.mpr one_pos

theorem value?_eq_some_iff :
    x.value? = some q ↔ ∃ u : ℤ, x.signedUnits? = some u ∧ (u : ℚ) = q * one := by
  have hne : (one : ℚ) ≠ 0 := ne_of_gt one_pos_rat
  simp only [value?, Option.map_eq_some_iff, div_eq_iff hne]

/-- A number is an integer if that is its value. -/
theorem integer?_eq_some_iff_value? : x.integer? = some n ↔ x.value? = some (n : ℚ) := by
  rw [integer?_eq_some_iff, value?_eq_some_iff]
  constructor
  · intro h
    refine ⟨n * one, h, ?_⟩
    rw [Int.cast_mul, Int.cast_natCast]
  · rintro ⟨u, hu, hvalue⟩
    have hunits : u = n * one := by exact_mod_cast hvalue
    rw [hu, hunits]

/-- Rational numbers that are counts of units compare as the counts do. -/
theorem le_iff_of_units {a b : ℚ} {d e : ℕ} (ha : a * one = d) (hb : b * one = e) :
    a ≤ b ↔ d ≤ e := by
  rw [← mul_le_mul_iff_left₀ one_pos_rat, ha, hb, Nat.cast_le]

theorem lt_iff_of_units {a b : ℚ} {d e : ℕ} (ha : a * one = d) (hb : b * one = e) :
    a < b ↔ d < e := by
  rw [← not_le, le_iff_of_units hb ha, not_le]

theorem eq_iff_of_units {a b : ℚ} {d e : ℕ} (ha : a * one = d) (hb : b * one = e) :
    a = b ↔ d = e := by
  rw [le_antisymm_iff, le_iff_of_units ha hb, le_iff_of_units hb ha, ← le_antisymm_iff]

/-- The distance between a value and an integer, counted in units. -/
theorem abs_sub_mul_one {u : ℤ} (h : (u : ℚ) = q * one) (n : ℤ) :
    |q - n| * one = ((u - n * one).natAbs : ℚ) := by
  rw [Nat.cast_natAbs, Int.cast_abs, Int.cast_sub, Int.cast_mul, Int.cast_natCast, h, ← sub_mul,
    abs_mul, abs_of_pos one_pos_rat]

theorem abs_mul_one {u : ℤ} (h : (u : ℚ) = q * one) : |q| * one = (u.natAbs : ℚ) := by
  rw [Nat.cast_natAbs, Int.cast_abs, h, abs_mul, abs_of_pos one_pos_rat]

theorem half_mul_one : (1 / 2 : ℚ) * one = ((one / 2 : ℕ) : ℚ) := by
  have hdouble : (2 : ℚ) * ((one / 2 : ℕ) : ℚ) = one := by exact_mod_cast two_mul_half_one
  linarith

/-- **The nearest integer by values.** A number is rounded to an integer at most a half away
    from its value; at just a half it is the one farther from zero. -/
theorem roundsTo_iff_value? :
    x.RoundsTo n ↔
      ∃ q, x.value? = some q ∧ |q - n| ≤ 1 / 2 ∧ (|q - n| = 1 / 2 → |q| < |(n : ℚ)|) := by
  have hhalf := two_mul_half_one
  -- what is said of the value is said of its units
  have hsame : ∀ {u : ℤ} {q : ℚ}, (u : ℚ) = q * one →
      ((2 * (u - n * one).natAbs ≤ one ∧
          (2 * (u - n * one).natAbs = one → u.natAbs < (n * one).natAbs)) ↔
        |q - n| ≤ 1 / 2 ∧ (|q - n| = 1 / 2 → |q| < |(n : ℚ)|)) := by
    intro u q h
    have hinteger : ((n * one : ℤ) : ℚ) = n * one := by rw [Int.cast_mul, Int.cast_natCast]
    rw [le_iff_of_units (abs_sub_mul_one h n) half_mul_one,
      eq_iff_of_units (abs_sub_mul_one h n) half_mul_one,
      lt_iff_of_units (abs_mul_one h) (abs_mul_one hinteger)]
    omega
  constructor
  · rintro ⟨u, hu, hnearest⟩
    have hvalue : (u : ℚ) = u / one * one := (div_mul_cancel₀ _ (ne_of_gt one_pos_rat)).symm
    exact ⟨u / one, value?_eq_some_iff.mpr ⟨u, hu, hvalue⟩, (hsame hvalue).mp hnearest⟩
  · rintro ⟨q, hq, hnearest⟩
    obtain ⟨u, hu, hvalue⟩ := value?_eq_some_iff.mp hq
    exact ⟨u, hu, (hsame hvalue).mpr hnearest⟩

end

end Binary64

end Phrasebook
