import Phrasebook.Decimal.Shortest

/-! # Rounding to binary numbers

    The interval of a finite number holds just the quotients that round to it: a
    quotient in the interval is rounded to the number, of whatever size it is.
    In particular a number rounds to itself. Rounding does not take a quotient
    below a power of two that it has reached.
-/

namespace Phrasebook

/-! ### Quotients rounded to natural numbers -/

/-- A quotient rounds to a natural number that is at most a half away; at just a
    half the natural number has to be even. -/
theorem roundedQuotient_eq {num den n : Nat} (hden : 0 < den)
    (hlow : 2 * (n * den) ≤ 2 * num + den) (hhigh : 2 * num ≤ 2 * (n * den) + den)
    (hodd : n % 2 = 1 → 2 * (n * den) < 2 * num + den ∧ 2 * num < 2 * (n * den) + den) :
    roundedQuotient num den = n := by
  have hdiv : den * (num / den) + num % den = num := Nat.div_add_mod num den
  have hmod : num % den < den := Nat.mod_lt num hden
  unfold roundedQuotient
  -- the natural number is the quotient rounded down or the next one
  have hcases : n = num / den ∨ n = num / den + 1 := by
    have hle : num / den ≤ n := by
      refine Nat.le_of_not_lt fun hlt => ?_
      have hstep : den * (n + 1) ≤ den * (num / den) := Nat.mul_le_mul_left den hlt
      rw [Nat.mul_add, Nat.mul_comm den n] at hstep
      omega
    have hge : n ≤ num / den + 1 := by
      refine Nat.le_of_not_lt fun hlt => ?_
      have hstep : den * (num / den + 2) ≤ den * n := Nat.mul_le_mul_left den hlt
      rw [Nat.mul_add, Nat.mul_comm den n] at hstep
      omega
    omega
  rcases hcases with hn | hn
  · -- rounded down, so the remainder is at most a half
    have hproduct : n * den = den * (num / den) := by rw [hn, Nat.mul_comm]
    rw [hproduct] at hlow hhigh hodd
    dsimp only
    split
    · exact hn.symm
    · split
      · omega
      · omega
  · -- rounded up, so the remainder is at least a half
    have hproduct : n * den = den * (num / den) + den := by
      rw [hn, Nat.add_mul, Nat.mul_comm (num / den) den, Nat.one_mul]
    rw [hproduct] at hlow hhigh hodd
    dsimp only
    split
    · omega
    · split
      · omega
      · omega

/-- A rounded quotient is the quotient rounded down or the next natural number. -/
theorem le_roundedQuotient (num den : Nat) : num / den ≤ roundedQuotient num den := by
  unfold roundedQuotient
  dsimp only
  split
  · exact Nat.le_refl _
  · split
    · omega
    · omega

theorem roundedQuotient_le {num den n : Nat} (h : num < n * den) :
    roundedQuotient num den ≤ n := by
  have hlt : num / den < n := Nat.div_lt_of_lt_mul (by rwa [Nat.mul_comm])
  unfold roundedQuotient
  dsimp only
  split
  · omega
  · split
    · omega
    · omega

/-- A quotient without a remainder is not rounded. -/
theorem roundedQuotient_mul (n : Nat) {den : Nat} (hden : 0 < den) :
    roundedQuotient (n * den) den = n := by
  apply roundedQuotient_eq hden
  · omega
  · omega
  · intro _
    omega

theorem log2_div_eq {num den k : Nat} (hden : 0 < den) (hlow : 2 ^ k * den ≤ num)
    (hhigh : num < 2 ^ (k + 1) * den) : (num / den).log2 = k := by
  have hle : 2 ^ k ≤ num / den := (Nat.le_div_iff_mul_le hden).mpr hlow
  have hlt : num / den < 2 ^ (k + 1) := (Nat.div_lt_iff_lt_mul hden).mpr hhigh
  have hne : num / den ≠ 0 := by
    have hpos := Nat.two_pow_pos k
    omega
  exact (Nat.log2_eq_iff hne).mpr ⟨hle, hlt⟩

namespace Binary64

/-! ### Quotients in the interval of a number -/

section
variable {m s num den : Nat}

/-- How far the interval of a number reaches below it, in quarters of a unit. -/
def reachBelow (m s : Nat) : Nat :=
  if m = 2 ^ 52 ∧ s ≠ 0 then 2 ^ s else 2 * 2 ^ s

theorem le_reachBelow (m s : Nat) : 2 ^ s ≤ reachBelow m s := by
  unfold reachBelow
  split <;> omega

theorem reachBelow_le (m s : Nat) : reachBelow m s ≤ 2 * 2 ^ s := by
  unfold reachBelow
  split <;> omega

theorem reachBelow_mul_le (m s den : Nat) : reachBelow m s * den ≤ 2 * (2 ^ s * den) := by
  rw [← Nat.mul_assoc]
  exact Nat.mul_le_mul_right den (reachBelow_le m s)

/-- What it takes for the interval of a number to hold a quotient: at most so far
    below and above the number, and not just so far if its mantissa is odd. -/
theorem span_holds_iff :
    (span m s).holds (4 * num) den = true ↔
      4 * (m * 2 ^ s * den) ≤ 4 * num + reachBelow m s * den ∧
        4 * num ≤ 4 * (m * 2 ^ s * den) + 2 * (2 ^ s * den) ∧
        (m % 2 = 1 → 4 * (m * 2 ^ s * den) < 4 * num + reachBelow m s * den ∧
          4 * num < 4 * (m * 2 ^ s * den) + 2 * (2 ^ s * den)) := by
  have hlow : (span m s).low * den = 4 * (m * 2 ^ s * den) - reachBelow m s * den := by
    show (4 * (m * 2 ^ s) - reachBelow m s) * den = _
    rw [Nat.sub_mul, Nat.mul_assoc 4]
  have hhigh : (span m s).high * den = 4 * (m * 2 ^ s * den) + 2 * (2 ^ s * den) := by
    show (4 * (m * 2 ^ s) + 2 * 2 ^ s) * den = _
    rw [Nat.add_mul, Nat.mul_assoc 4, Nat.mul_assoc 2]
  have hclosed : (span m s).closed = (m % 2 == 0) := rfl
  rw [Span.holds, hlow, hhigh, hclosed]
  by_cases heven : m % 2 = 0
  · simp only [heven, beq_self_eq_true, if_true, Bool.and_eq_true, decide_eq_true_eq]
    omega
  · have hodd : m % 2 = 1 := by omega
    -- an odd mantissa is not zero, so the lower end is not cut off at zero
    have hpositive : reachBelow m s * den ≤ 4 * (m * 2 ^ s * den) := by
      have hm : 2 ^ s ≤ m * 2 ^ s := Nat.le_mul_of_pos_left _ (by omega)
      have hreach := reachBelow_le m s
      have hreach' : reachBelow m s ≤ 4 * (m * 2 ^ s) := by omega
      rw [← Nat.mul_assoc 4]
      exact Nat.mul_le_mul_right den hreach'
    have hne : (m % 2 == 0) = false := by simpa using heven
    simp only [hne, Bool.false_eq_true, if_false, Bool.and_eq_true, decide_eq_true_eq]
    omega

theorem span_holds_center (hden : 0 < den) (hunits : num = m * 2 ^ s * den) :
    (span m s).holds (4 * num) den = true := by
  have hgap : 0 < 2 ^ s * den := Nat.mul_pos (Nat.two_pow_pos s) hden
  have hreach : 2 ^ s * den ≤ reachBelow m s * den := Nat.mul_le_mul_right den (le_reachBelow m s)
  rw [span_holds_iff, hunits]
  omega

/-- A quotient that is not cut down to fewer bits rounds to the mantissa of the number
    whose interval holds it. -/
theorem roundedQuotient_of_holds (hden : 0 < den) (h : (span m s).holds (4 * num) den = true) :
    roundedQuotient num (den * 2 ^ s) = m := by
  obtain ⟨hlow, hhigh, hodd⟩ := span_holds_iff.mp h
  have hgap : 0 < den * 2 ^ s := Nat.mul_pos hden (Nat.two_pow_pos s)
  have hproduct : m * (den * 2 ^ s) = m * 2 ^ s * den := by
    rw [Nat.mul_assoc, Nat.mul_comm den]
  have hswap : 2 ^ s * den = den * 2 ^ s := Nat.mul_comm _ _
  have hreach := reachBelow_mul_le m s den
  rw [hswap] at hreach hhigh hodd
  -- the interval is closed just where rounding goes to the mantissa on a tie
  refine roundedQuotient_eq hgap ?_ ?_ ?_
  · omega
  · omega
  · intro hm
    have hstrict := hodd hm
    omega

/-- With the scale of the number, the mantissa is right as well. -/
theorem roundedBits_of_scale (hm : m < 2 ^ 53) (hden : 0 < den)
    (h : (span m s).holds (4 * num) den = true) (hscale : (num / den).log2 + 1 - 53 = s) :
    roundedBits 53 num den = (m, s) := by
  have hmantissa := roundedQuotient_of_holds hden h
  unfold roundedBits
  simp only [hscale, hmantissa]
  rw [if_neg (by omega)]

/-- On the least scale nothing is cut off. -/
theorem scale_of_holds_least (hm : m < 2 ^ 53) (hden : 0 < den)
    (h : (span m 0).holds (4 * num) den = true) : (num / den).log2 + 1 - 53 = 0 := by
  -- above the upper end there would be room for one more in the mantissa
  obtain ⟨-, hhigh, -⟩ := span_holds_iff.mp h
  have hlt : num / den < m + 1 := by
    rw [Nat.div_lt_iff_lt_mul hden, Nat.add_mul]
    simp only [Nat.pow_zero, Nat.mul_one, Nat.one_mul] at hhigh ⊢
    omega
  by_cases hzero : num / den = 0
  · rw [hzero]
    decide
  · have hlog : (num / den).log2 < 53 := (Nat.log2_lt hzero).mpr (by omega)
    omega

/-- A quotient with all bits of the number has its scale. -/
theorem scale_of_holds (hm : m < 2 ^ 53) (hden : 0 < den)
    (h : (span m s).holds (4 * num) den = true) (hfloor : 2 ^ 52 * (2 ^ s * den) ≤ num) :
    (num / den).log2 + 1 - 53 = s := by
  -- the quotient is between `2^52` and `2^53` steps of the scale, so its logarithm is known
  obtain ⟨-, hhigh, -⟩ := span_holds_iff.mp h
  have hgap : 0 < 2 ^ s * den := Nat.mul_pos (Nat.two_pow_pos s) hden
  have hupper : (m + 1) * (2 ^ s * den) ≤ 2 ^ 53 * (2 ^ s * den) := Nat.mul_le_mul_right _ hm
  rw [Nat.add_mul, Nat.one_mul] at hupper
  rw [Nat.mul_assoc m] at hhigh
  have hlog : (num / den).log2 = 52 + s := by
    apply log2_div_eq hden
    · rw [Nat.pow_add, Nat.mul_assoc]
      exact hfloor
    · rw [Nat.add_right_comm, Nat.pow_add, Nat.mul_assoc]
      omega
  omega

/-- Below a power of two the interval holds quotients with a bit less. Only a power of
    two reaches down to them. -/
theorem mantissa_of_holds_below (hbits : 2 ^ 52 ≤ m) (h : (span m s).holds (4 * num) den = true)
    (hbelow : num < 2 ^ 52 * (2 ^ s * den)) : m = 2 ^ 52 := by
  obtain ⟨hlow, -, -⟩ := span_holds_iff.mp h
  have hreach := reachBelow_mul_le m s den
  -- any other mantissa with all its bits reaches down only half a step
  by_cases hm : m = 2 ^ 52
  · exact hm
  · have hstep : (2 ^ 52 + 1) * (2 ^ s * den) ≤ m * (2 ^ s * den) :=
      Nat.mul_le_mul_right _ (by omega)
    rw [Nat.add_mul, Nat.one_mul] at hstep
    rw [Nat.mul_assoc m] at hlow
    omega

/-- With a bit less a quotient is rounded up to the power of two above it. -/
theorem roundedBits_of_holds_below {r : Nat} (hden : 0 < den)
    (h : (span (2 ^ 52) (r + 1)).holds (4 * num) den = true)
    (hbelow : num < 2 ^ 52 * (2 ^ (r + 1) * den)) :
    roundedBits 53 num den = (2 ^ 52, r + 1) := by
  obtain ⟨hlow, -, -⟩ := span_holds_iff.mp h
  have hgap : 0 < 2 ^ r * den := Nat.mul_pos (Nat.two_pow_pos r) hden
  -- a power of two reaches down only half as far as it reaches up
  have hreach : reachBelow (2 ^ 52) (r + 1) = 2 ^ (r + 1) := if_pos ⟨rfl, Nat.succ_ne_zero r⟩
  have hdouble : 2 ^ (r + 1) * den = 2 * (2 ^ r * den) := by
    rw [Nat.pow_succ, Nat.mul_comm (2 ^ r) 2, Nat.mul_assoc]
  rw [hreach, Nat.mul_assoc (2 ^ 52), hdouble] at hlow
  rw [hdouble] at hbelow
  have hlog : (num / den).log2 = 52 + r := by
    apply log2_div_eq hden
    · rw [Nat.pow_add, Nat.mul_assoc]
      omega
    · rw [Nat.add_right_comm, Nat.pow_add, Nat.mul_assoc]
      omega
  -- the quotient has one bit less than the scale suggests, so its rounded mantissa carries
  have hscale : (num / den).log2 + 1 - 53 = r := by omega
  have hmantissa : roundedQuotient num (den * 2 ^ r) = 2 ^ 53 := by
    rw [Nat.mul_comm den]
    apply roundedQuotient_eq (by omega)
    · omega
    · omega
    · intro hodd
      omega
  unfold roundedBits
  simp only [hscale, hmantissa, if_true]

/-- **The bits of a quotient in the interval of a number** are those of the number. -/
theorem roundedBits_of_holds (hcanonical : Canonical m s) (hden : 0 < den)
    (h : (span m s).holds (4 * num) den = true) : roundedBits 53 num den = (m, s) := by
  obtain ⟨hm, -, hfull⟩ := hcanonical
  -- on the least scale the mantissa may lack bits; above it, the interval may reach below
  -- `2^52`
  cases s with
  | zero => exact roundedBits_of_scale hm hden h (scale_of_holds_least hm hden h)
  | succ r =>
    have hbits : 2 ^ 52 ≤ m := hfull.resolve_right (Nat.succ_ne_zero r)
    by_cases hfloor : 2 ^ 52 * (2 ^ (r + 1) * den) ≤ num
    · exact roundedBits_of_scale hm hden h (scale_of_holds hm hden h hfloor)
    · have hbelow : num < 2 ^ 52 * (2 ^ (r + 1) * den) := Nat.lt_of_not_le hfloor
      obtain rfl : m = 2 ^ 52 := mantissa_of_holds_below hbits h hbelow
      exact roundedBits_of_holds_below hden h hbelow

theorem ofUnits_of_roundedBits (negative : Bool) (hcanonical : Canonical m s)
    (hbits : roundedBits 53 num den = (m, s)) :
    ofUnits negative num den = .finite negative m s hcanonical := by
  unfold ofUnits
  simp only [hbits]
  rw [dif_pos hcanonical]

/-- **A quotient in the interval of a number rounds to the number.** -/
theorem ofUnits_of_holds (negative : Bool) (hcanonical : Canonical m s) (hden : 0 < den)
    (h : (span m s).holds (4 * num) den = true) :
    ofUnits negative num den = .finite negative m s hcanonical :=
  ofUnits_of_roundedBits negative hcanonical (roundedBits_of_holds hcanonical hden h)

/-- A magnitude that a number has rounds to the number. -/
theorem ofUnits_of_eq (negative : Bool) (hcanonical : Canonical m s) (hden : 0 < den)
    (hunits : num = m * 2 ^ s * den) :
    ofUnits negative num den = .finite negative m s hcanonical :=
  ofUnits_of_holds negative hcanonical hden (span_holds_center hden hunits)

/-- Rounding keeps a quotient at or above a power of two, if that has 53 bits or more. -/
theorem le_of_roundedBits {k : Nat} (hk : 52 ≤ k) (hden : 0 < den) (h : 2 ^ k * den ≤ num)
    (hbits : roundedBits 53 num den = (m, s)) : 2 ^ k ≤ m * 2 ^ s := by
  have hle : 2 ^ k ≤ num / den := (Nat.le_div_iff_mul_le hden).mpr h
  have hne : num / den ≠ 0 := by
    have hpos := Nat.two_pow_pos k
    omega
  have hlog : k ≤ (num / den).log2 := (Nat.le_log2 hne).mpr hle
  obtain ⟨r, hr⟩ : ∃ r, (num / den).log2 = 52 + r := ⟨(num / den).log2 - 52, by omega⟩
  have hscale : (num / den).log2 + 1 - 53 = r := by omega
  -- the rounded mantissa has all its bits
  have hfull : 2 ^ 52 ≤ roundedQuotient num (den * 2 ^ r) := by
    refine Nat.le_trans ?_ (le_roundedQuotient num (den * 2 ^ r))
    rw [Nat.le_div_iff_mul_le (Nat.mul_pos hden (Nat.two_pow_pos r)), ← Nat.mul_assoc,
      Nat.mul_right_comm, ← Nat.pow_add, ← hr]
    exact (Nat.le_div_iff_mul_le hden).mp (Nat.log2_self_le hne)
  have hpower : (2 ^ k : Nat) ≤ 2 ^ 52 * 2 ^ r := by
    rw [← Nat.pow_add]
    exact Nat.pow_le_pow_right (by decide) (by omega)
  refine Nat.le_trans hpower ?_
  unfold roundedBits at hbits
  simp only [hscale] at hbits
  split at hbits
  · -- rounded up to the next power of two, the mantissa is a half and the scale one more
    obtain ⟨rfl, rfl⟩ := Prod.mk.inj hbits
    exact Nat.mul_le_mul_left _ (Nat.pow_le_pow_right (by decide) (Nat.le_succ r))
  · obtain ⟨rfl, rfl⟩ := Prod.mk.inj hbits
    exact Nat.mul_le_mul_right _ hfull

/-! ### Bits and scale of a rounded quotient -/

/-- The scale is the one that leaves 53 bits of the quotient, or the next one after a carry. -/
theorem scale_of_roundedBits (hbits : roundedBits 53 num den = (m, s)) :
    s = (num / den).log2 + 1 - 53 ∨ m = 2 ^ 52 ∧ s = (num / den).log2 + 1 - 53 + 1 := by
  unfold roundedBits at hbits
  dsimp only at hbits
  split at hbits
  · obtain ⟨rfl, rfl⟩ := Prod.mk.inj hbits
    exact Or.inr ⟨rfl, rfl⟩
  · exact Or.inl (Prod.mk.inj hbits).2.symm

/-- A quotient below a power of two has no larger scale than that. -/
theorem scale_le_of_roundedBits {k : Nat} (hk : 53 ≤ k) (hden : 0 < den) (h : num < 2 ^ k * den)
    (hbits : roundedBits 53 num den = (m, s)) : s ≤ k - 52 := by
  have hlog : (num / den).log2 + 1 ≤ k := by
    by_cases hzero : num / den = 0
    · rw [hzero, Nat.log2_zero]
      omega
    · exact (Nat.log2_lt hzero).mpr ((Nat.div_lt_iff_lt_mul hden).mpr h)
  rcases scale_of_roundedBits hbits with hs | ⟨-, hs⟩
  · omega
  · omega

/-- A quotient that has reached a power of two has at least the scale of that. -/
theorem le_scale_of_roundedBits {k : Nat} (hden : 0 < den) (h : 2 ^ k * den ≤ num)
    (hbits : roundedBits 53 num den = (m, s)) : k - 52 ≤ s := by
  have hle : 2 ^ k ≤ num / den := (Nat.le_div_iff_mul_le hden).mpr h
  have hne : num / den ≠ 0 := by
    have hpos := Nat.two_pow_pos k
    omega
  have hlog : k ≤ (num / den).log2 := (Nat.le_log2 hne).mpr hle
  rcases scale_of_roundedBits hbits with hs | ⟨-, hs⟩
  · omega
  · omega

theorem mantissa_of_roundedBits (hden : 0 < den) (hbits : roundedBits 53 num den = (m, s)) :
    m < 2 ^ 53 := by
  -- a quotient lies below the power of two behind its logarithm, and rounding does not leave
  -- it
  have hlog : num / den < 2 ^ (53 + ((num / den).log2 + 1 - 53)) :=
    Nat.lt_of_lt_of_le Nat.lt_log2_self (Nat.pow_le_pow_right (by decide) (by omega))
  have hnum : num < 2 ^ 53 * (den * 2 ^ ((num / den).log2 + 1 - 53)) := by
    rw [Nat.div_lt_iff_lt_mul hden, Nat.pow_add] at hlog
    rwa [Nat.mul_comm den, ← Nat.mul_assoc]
  have hle := roundedQuotient_le hnum
  unfold roundedBits at hbits
  dsimp only at hbits
  split at hbits
  · obtain ⟨rfl, -⟩ := Prod.mk.inj hbits
    omega
  · obtain ⟨rfl, -⟩ := Prod.mk.inj hbits
    omega

/-- **Rounding gives a canonical form**, unless the scale is beyond that of every number. -/
theorem canonical_of_roundedBits (hden : 0 < den) (hbits : roundedBits 53 num den = (m, s))
    (hs : s ≤ 2045) : Canonical m s := by
  refine ⟨mantissa_of_roundedBits hden hbits, hs, ?_⟩
  -- a carry gives the least full mantissa at once; without one, the logarithm does
  rcases scale_of_roundedBits hbits with hscale | ⟨hm, -⟩
  · by_cases hzero : s = 0
    · exact Or.inr hzero
    · -- the quotient has reached the power of two whose mantissa is the least full one
      have hlog : (num / den).log2 = 52 + s := by omega
      have hne : num / den ≠ 0 := by
        intro heq
        rw [heq, Nat.log2_zero] at hlog
        omega
      have hlow : 2 ^ (52 + s) * den ≤ num := by
        rw [← Nat.le_div_iff_mul_le hden, ← hlog]
        exact Nat.log2_self_le hne
      have hunits := le_of_roundedBits (by omega) hden hlow hbits
      rw [Nat.pow_add] at hunits
      exact Or.inl (Nat.le_of_mul_le_mul_right hunits (Nat.two_pow_pos s))
  · exact Or.inl (Nat.le_of_eq hm.symm)

end

end Binary64

end Phrasebook
