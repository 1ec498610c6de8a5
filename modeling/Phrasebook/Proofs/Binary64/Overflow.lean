import Phrasebook.Proofs.Binary64.Integers

/-! # Results that stay finite

    Rounding goes to an infinity only from half a step above the largest finite number on.
    A finite number less an integer of 64 bits stays below that: beside the largest numbers
    such an integer is far less than half a step.
-/

namespace Phrasebook

/-- A quotient that is less than a half above a natural number is not rounded above it. -/
theorem roundedQuotient_le_of_near {num den n : Nat} (h : 2 * num < 2 * (n * den) + den) :
    roundedQuotient num den ≤ n := by
  have hdiv : den * (num / den) + num % den = num := Nat.div_add_mod num den
  by_cases hbelow : num < n * den
  · exact roundedQuotient_le hbelow
  · have hquotient : num / den = n := by
      apply Nat.div_eq_of_lt_le
      · exact Nat.le_of_not_lt hbelow
      · rw [Nat.succ_mul]
        omega
    have hproduct : n * den = den * (num / den) := by rw [hquotient, Nat.mul_comm]
    have hsmall : 2 * (num % den) < den := by omega
    unfold roundedQuotient
    dsimp only
    rw [if_pos hsmall]
    exact Nat.le_of_eq hquotient

namespace Binary64

/-- A mantissa that does not carry leaves the scale as it is. -/
theorem scale_of_no_carry {num den m s : Nat} (hbits : roundedBits 53 num den = (m, s))
    (h : roundedQuotient num (den * 2 ^ ((num / den).log2 + 1 - 53)) < 2 ^ 53) :
    s = (num / den).log2 + 1 - 53 := by
  unfold roundedBits at hbits
  dsimp only at hbits
  rw [if_neg (Nat.ne_of_lt h)] at hbits
  exact (Prod.mk.inj hbits).2.symm

section
variable {num k : Nat}

/-- Below half a step above the largest magnitude of a scale, the scale is not left. -/
theorem scale_le_of_near {m s : Nat} (h : num < (2 ^ 53 - 1) * 2 ^ (k + 1) + 2 ^ k)
    (hbits : roundedBits 53 num 1 = (m, s)) : s ≤ k + 1 := by
  by_cases hlow : num < 2 ^ (k + 53) * 1
  · have hscale := scale_le_of_roundedBits (by omega) Nat.zero_lt_one hlow hbits
    omega
  · -- with all bits on that scale there is nothing to carry
    have hstep : (2 ^ (k + 1) : Nat) = 2 * 2 ^ k := by rw [Nat.pow_succ, Nat.mul_comm]
    have hhigh : num < 2 ^ (k + 53 + 1) * 1 := by
      have htop : (2 ^ (k + 53 + 1) : Nat) = 2 ^ 53 * 2 ^ (k + 1) := by
        rw [← Nat.pow_add, Nat.add_comm 53, Nat.add_right_comm]
      rw [htop]
      omega
    have hlog : (num / 1).log2 = k + 53 :=
      log2_div_eq Nat.zero_lt_one (Nat.le_of_not_lt hlow) hhigh
    have hexponent : (num / 1).log2 + 1 - 53 = k + 1 := by omega
    have hnear : roundedQuotient num (1 * 2 ^ (k + 1)) ≤ 2 ^ 53 - 1 := by
      apply roundedQuotient_le_of_near
      rw [Nat.one_mul]
      omega
    have hkept : s = (num / 1).log2 + 1 - 53 := by
      apply scale_of_no_carry hbits
      rw [hexponent]
      omega
    omega

/-- **Rounding stays finite** below half a step above the largest magnitude of a scale that
    finite numbers have. -/
theorem isFinite_ofUnits (negative : Bool) (hk : k + 1 ≤ 2045)
    (h : num < (2 ^ 53 - 1) * 2 ^ (k + 1) + 2 ^ k) :
    (ofUnits negative num 1).isFinite = true := by
  rcases hbits : roundedBits 53 num 1 with ⟨m, s⟩
  have hscale := scale_le_of_near h hbits
  have hcanonical := canonical_of_roundedBits Nat.zero_lt_one hbits (by omega)
  rw [ofUnits_of_roundedBits negative hcanonical hbits]
  rfl

theorem exists_units_ofInt {n : Int} (hn : n.natAbs < 2 ^ 64) (hk : 1139 ≤ k) :
    ∃ b t, ∃ hcanonical : Canonical b t,
      ofInt n = .finite (n < 0) b t hcanonical ∧ b * 2 ^ t < 2 ^ k := by
  obtain ⟨b, t, hcanonical, hfinite⟩ := exists_finite_ofInt (by decide) hn
  -- 64 bits above the point cannot carry the scale beyond `64 + 1074 - 52`
  have hbits : roundedBits 53 (n.natAbs * one) 1 = (b, t) := by
    rw [ofInt_eq_ofUnits] at hfinite
    exact roundedBits_of_ofUnits hfinite
  have hunits : n.natAbs * one < 2 ^ (64 + 1074) * 1 := by
    rw [Nat.mul_one, ← two_pow_mul_one]
    exact Nat.mul_lt_mul_of_pos_right hn one_pos
  have hscale : t ≤ 64 + 1074 - 52 :=
    scale_le_of_roundedBits (by decide) Nat.zero_lt_one hunits hbits
  refine ⟨b, t, hcanonical, hfinite, ?_⟩
  calc b * 2 ^ t < 2 ^ 53 * 2 ^ t := Nat.mul_lt_mul_of_pos_right hcanonical.1 (Nat.two_pow_pos t)
    _ = 2 ^ (53 + t) := (Nat.pow_add 2 53 t).symm
    _ ≤ 2 ^ k := Nat.pow_le_pow_right (by decide) (by omega)

end

/-- **Finite numbers stay finite less an integer of 64 bits.** -/
theorem isFinite_sub_ofInt {x : Binary64} (hx : x.isFinite = true) {n : Int}
    (hn : n.natAbs < 2 ^ 64) : (x.sub (ofInt n)).isFinite = true := by
  cases x with
  | nan => cases hx
  | infinity negative => cases hx
  | finite negative a s hcanonical =>
    obtain ⟨k, hk⟩ : ∃ k, k + 1 = 2045 := ⟨2044, rfl⟩
    obtain ⟨b, t, hcanonical', hofInt, hsmall⟩ := exists_units_ofInt hn (k := k) (by omega)
    -- the largest finite magnitude and the integer together stay below the step that overflows
    have hlarge : a * 2 ^ s ≤ (2 ^ 53 - 1) * 2 ^ (k + 1) := by
      obtain ⟨ha, hs, -⟩ := hcanonical
      exact Nat.mul_le_mul (Nat.le_pred_of_lt ha) (Nat.pow_le_pow_right (by decide) (by omega))
    rw [hofInt]
    show (if _ = _ then _ else _ : Binary64).isFinite = true
    by_cases hzero : (if negative then -((a * 2 ^ s : Nat) : Int) else (a * 2 ^ s : Nat)) -
        (if decide (n < 0) then -((b * 2 ^ t : Nat) : Int) else (b * 2 ^ t : Nat)) = 0
    · rw [if_pos hzero]
      rfl
    · rw [if_neg hzero]
      apply isFinite_ofUnits _ (Nat.le_of_eq hk)
      generalize a * 2 ^ s = u at hlarge ⊢
      generalize b * 2 ^ t = v at hsmall ⊢
      split <;> split <;> omega

end Binary64

end Phrasebook
