import Phrasebook.Proofs.Binary64.Integers

/-! # The nearest integer

    What it is to be the integer nearest to a binary number, a half going away from
    zero, said by distances and without a quotient. Rounding gives just this integer,
    so an integer is rounded to itself and only finite numbers are rounded at all.
-/

namespace Phrasebook

namespace Binary64

/-- An integer is at most a half away from a number; at just a half it is the one
    farther from zero. Distances are counted in units. -/
def RoundsTo (x : Binary64) (n : Int) : Prop :=
  ∃ u, x.signedUnits? = some u ∧ 2 * (u - n * one).natAbs ≤ one ∧
    (2 * (u - n * one).natAbs = one → u.natAbs < (n * one).natAbs)

theorem two_mul_half_one : 2 * (one / 2) = one := by
  decide +kernel

/-- Rounding a magnitude, in units. -/
theorem roundedUnits_eq_iff {u : Nat} {n : Int} :
    (((u + one / 2) / one : Nat) : Int) = n ↔
      2 * ((u : Int) - n * one).natAbs ≤ one ∧
        (2 * ((u : Int) - n * one).natAbs = one → u < (n * one).natAbs) := by
  have hpos := one_pos
  have hhalf := two_mul_half_one
  by_cases hn : 0 ≤ n
  · obtain ⟨k, rfl⟩ := Int.eq_ofNat_of_zero_le hn
    have hproduct : (k : Int) * one = ((k * one : Nat) : Int) := (Int.natCast_mul k one).symm
    rw [Int.ofNat_inj, Nat.div_eq_iff hpos, hproduct]
    omega
  · -- a negative integer is more than a half away from any magnitude
    have hproduct : n * one ≤ -1 * one := Int.mul_le_mul_of_nonneg_right (by omega) (by omega)
    generalize n * (one : Int) = p at hproduct ⊢
    generalize (u + one / 2) / one = q
    omega

/-- **The rounded number** is the nearest integer, a half going away from zero. -/
theorem nearestInteger?_eq_some_iff {x : Binary64} {n : Int} :
    x.nearestInteger? = some n ↔ x.RoundsTo n := by
  cases x with
  | nan => exact ⟨nofun, nofun⟩
  | infinity negative => exact ⟨nofun, nofun⟩
  | finite negative m s h =>
    -- in units both sides speak of one natural number and of the sign in front of it
    simp only [nearestInteger?, RoundsTo, signedUnits?, Option.some.injEq, exists_eq_left']
    generalize m * 2 ^ s = u
    cases negative with
    | false =>
      rw [if_neg Bool.false_ne_true, if_neg Bool.false_ne_true, Int.natAbs_natCast]
      exact roundedUnits_eq_iff
    | true =>
      -- turning both signs turns the distance only
      have hdistance : (-(u : Int) - n * one).natAbs = ((u : Int) - -n * one).natAbs := by
        rw [Int.neg_mul]
        omega
      have hmagnitude : (n * one).natAbs = (-n * one).natAbs := by
        rw [Int.neg_mul, Int.natAbs_neg]
      rw [if_pos rfl, if_pos rfl, Int.natAbs_neg, Int.natAbs_natCast, hdistance, hmagnitude,
        Int.neg_eq_comm, eq_comm]
      exact roundedUnits_eq_iff

theorem nearestInteger?_of_integer? {x : Binary64} {n : Int} (h : x.integer? = some n) :
    x.nearestInteger? = some n := by
  apply nearestInteger?_eq_some_iff.mpr
  have hpos := one_pos
  refine ⟨n * one, integer?_eq_some_iff.mp h, ?_, ?_⟩
  · rw [Int.sub_self]
    exact Nat.zero_le one
  · -- there is no distance, so there is no tie
    rw [Int.sub_self, Int.natAbs_zero]
    omega

instance (x : Binary64) (n : Int) : Decidable (x.RoundsTo n) :=
  decidable_of_iff _ nearestInteger?_eq_some_iff

end Binary64

end Phrasebook
