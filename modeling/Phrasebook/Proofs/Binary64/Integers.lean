import Phrasebook.Proofs.Binary64.Equality
import Phrasebook.Proofs.Binary64.Rounding

/-! # Integers as binary numbers

    An integer becomes a binary number without loss exactly when its magnitude is a
    mantissa of 53 bits shifted left, as all magnitudes below `2^53` are. On such
    integers products and differences are exact as long as the result is one of them
    too. Beyond them integers are rounded, but never down to one below `2^53`.
-/

namespace Phrasebook

namespace Binary64

theorem one_pos : 0 < one := by
  decide +kernel

theorem two_pow_mul_one (k : Nat) : 2 ^ k * one = 2 ^ (k + 1074) := by
  rw [Nat.pow_add, one]

/-- The units of a scale up to that of a power of two. -/
theorem two_pow_le_units {s k : Nat} (h : s ≤ k + 1074) : 2 ^ s ≤ 2 ^ k * one := by
  rw [two_pow_mul_one]
  exact Nat.pow_le_pow_right (by decide) h

/-- The units of a scale from that of a power of two on. -/
theorem units_le_two_pow {s k : Nat} (h : k + 1074 ≤ s) : 2 ^ k * one ≤ 2 ^ s := by
  rw [two_pow_mul_one]
  exact Nat.pow_le_pow_right (by decide) h

/-- The binary number of an integer has the units of the integer, rounded. -/
theorem ofInt_eq_ofUnits (n : Int) : ofInt n = ofUnits (n < 0) (n.natAbs * one) 1 := by
  rw [ofInt, ofRatio]

theorem ofInt_zero : ofInt 0 = zero false := by
  decide +kernel

/-! ### Magnitudes without loss -/

/-- A natural number that is the magnitude of a binary number: a mantissa and a scale
    above the point that such numbers have. -/
def Representable (k : Nat) : Prop :=
  ∃ m s, m < 2 ^ 53 ∧ s ≤ 971 ∧ k = m * 2 ^ s

theorem representable_of_lt {k : Nat} (h : k < 2 ^ 53) : Representable k :=
  ⟨k, 0, h, by omega, by omega⟩

/-- A mantissa of fewer bits can be filled by lowering the scale. -/
theorem exists_canonical {m s : Nat} (hm : m < 2 ^ 53) (hs : s ≤ 2045) :
    ∃ m' s', Canonical m' s' ∧ m' * 2 ^ s' = m * 2 ^ s := by
  -- induction on the scale: each step down leaves room for one more bit of the mantissa
  induction s generalizing m with
  | zero => exact ⟨m, 0, ⟨hm, Nat.zero_le _, Or.inr rfl⟩, rfl⟩
  | succ s ih =>
    by_cases hfull : 2 ^ 52 ≤ m
    · exact ⟨m, s + 1, ⟨hm, hs, Or.inl hfull⟩, rfl⟩
    · -- twice the mantissa on the scale below
      have hdouble : 2 * m < 2 ^ 53 := by omega
      obtain ⟨m', s', hcanonical, hunits⟩ := ih hdouble (by omega)
      refine ⟨m', s', hcanonical, ?_⟩
      rw [hunits, Nat.pow_succ, Nat.mul_comm (2 ^ s) 2, ← Nat.mul_assoc, Nat.mul_comm m 2]

/-- The units of a natural number without loss have a canonical form. -/
theorem Representable.exists_units {k : Nat} (h : Representable k) :
    ∃ m s, Canonical m s ∧ m * 2 ^ s = k * one := by
  obtain ⟨m, s, hm, hs, rfl⟩ := h
  obtain ⟨m', s', hcanonical, hunits⟩ := exists_canonical hm (s := s + 1074) (by omega)
  refine ⟨m', s', hcanonical, ?_⟩
  rw [hunits, ← two_pow_mul_one, Nat.mul_assoc]

/-- **Integers without loss.** The binary number of an integer whose magnitude is
    representable has just the units of the integer. -/
theorem ofInt_eq {n : Int} (h : Representable n.natAbs) :
    ∃ m s, ∃ hcanonical : Canonical m s,
      ofInt n = .finite (n < 0) m s hcanonical ∧ m * 2 ^ s = n.natAbs * one := by
  obtain ⟨m, s, hcanonical, hunits⟩ := h.exists_units
  refine ⟨m, s, hcanonical, ?_, hunits⟩
  have hnum : n.natAbs * one = m * 2 ^ s * 1 := by rw [Nat.mul_one, hunits]
  rw [ofInt_eq_ofUnits]
  exact ofUnits_of_eq _ hcanonical Nat.zero_lt_one hnum

/-- Rounding a ratio that is just the units of an integer without loss. -/
theorem ofUnits_eq_ofInt {n : Int} {num den : Nat} (h : Representable n.natAbs) (hden : 0 < den)
    (hnum : num = n.natAbs * one * den) : ofUnits (n < 0) num den = ofInt n := by
  obtain ⟨m, s, hcanonical, hn, hunits⟩ := ofInt_eq h
  rw [hn]
  refine ofUnits_of_eq _ hcanonical hden ?_
  rw [hnum, hunits]

theorem signedUnits?_ofInt {n : Int} (h : Representable n.natAbs) :
    (ofInt n).signedUnits? = some (n * one) := by
  obtain ⟨m, s, hcanonical, hn, hunits⟩ := ofInt_eq h
  have hproduct : ((n.natAbs * one : Nat) : Int) = n.natAbs * one := Int.natCast_mul _ _
  rw [hn]
  simp only [signedUnits?, hunits, hproduct, decide_eq_true_eq]
  by_cases hnegative : n < 0
  · have hmagnitude : (n.natAbs : Int) = -n := by omega
    rw [if_pos hnegative, hmagnitude, Int.neg_mul, Int.neg_neg]
  · have hmagnitude : (n.natAbs : Int) = n := by omega
    rw [if_neg hnegative, hmagnitude]

/-- A number is an integer if its units are those of the integer. -/
theorem integer?_eq_some_iff {x : Binary64} {n : Int} :
    x.integer? = some n ↔ x.signedUnits? = some (n * one) := by
  -- the quotient by the units in one undoes the product only because there are such units
  have hone : (one : Int) ≠ 0 := by
    have hpos := one_pos
    omega
  unfold integer?
  cases x.signedUnits? with
  | none => exact ⟨nofun, nofun⟩
  | some u =>
    simp only [Option.bind_some, Option.some.injEq]
    constructor
    · intro h
      split at h
      · next hmod =>
        obtain rfl : u / one = n := Option.some.inj h
        exact (Int.ediv_mul_cancel (Int.dvd_of_emod_eq_zero hmod)).symm
      · cases h
    · rintro rfl
      rw [if_pos (Int.mul_emod_left n one), Int.mul_ediv_cancel n hone]

theorem integer?_ofInt {n : Int} (h : Representable n.natAbs) : (ofInt n).integer? = some n :=
  integer?_eq_some_iff.mpr (signedUnits?_ofInt h)

theorem units_of_integer? {negative : Bool} {m s : Nat} {hcanonical : Canonical m s} {n : Int}
    (h : (finite negative m s hcanonical).integer? = some n) : m * 2 ^ s = n.natAbs * one := by
  have hunits := integer?_eq_some_iff.mp h
  have habs := congrArg Int.natAbs (Option.some.inj hunits)
  rw [Int.natAbs_mul, Int.natAbs_natCast] at habs
  cases negative with
  | true => rwa [if_pos rfl, Int.natAbs_neg, Int.natAbs_natCast] at habs
  | false => rwa [if_neg Bool.false_ne_true, Int.natAbs_natCast] at habs

/-- A number is an integer if its units are those of a natural number. -/
theorem integer?_of_units {negative : Bool} {m s k : Nat} (hcanonical : Canonical m s)
    (hunits : m * 2 ^ s = k * one) :
    (finite negative m s hcanonical).integer? = some (if negative then -(k : Int) else k) := by
  apply integer?_eq_some_iff.mpr
  simp only [signedUnits?, hunits, Int.natCast_mul]
  cases negative with
  | true => rw [if_pos rfl, if_pos rfl, Int.neg_mul]
  | false => rw [if_neg Bool.false_ne_true, if_neg Bool.false_ne_true]

/-- Integers that are binary numbers have no loss. -/
theorem representable_of_integer? {x : Binary64} {n : Int} (h : x.integer? = some n) :
    Representable n.natAbs := by
  cases x with
  | nan => cases h
  | infinity negative => cases h
  | finite negative m s hcanonical =>
    have hunits := units_of_integer? h
    obtain ⟨hm, hs, -⟩ := hcanonical
    by_cases hscale : 1074 ≤ s
    · -- the scale above the point is that of the integer
      obtain ⟨r, rfl⟩ : ∃ r, s = r + 1074 := ⟨s - 1074, by omega⟩
      rw [← two_pow_mul_one, ← Nat.mul_assoc] at hunits
      exact ⟨m, r, hm, by omega, (Nat.eq_of_mul_eq_mul_right one_pos hunits).symm⟩
    · -- below the point the mantissa has the integer as a factor
      have hpower : 2 ^ s ≤ 2 ^ 0 * one := two_pow_le_units (by omega)
      simp only [Nat.pow_zero, Nat.one_mul] at hpower
      apply representable_of_lt
      refine Nat.lt_of_le_of_lt ?_ hm
      refine Nat.le_of_mul_le_mul_right ?_ one_pos
      rw [← hunits]
      exact Nat.mul_le_mul_left m hpower

/-! ### Exact arithmetic -/

/-- A positive factor leaves the sign of a product to the other one. -/
theorem mul_neg_iff_of_pos {a b : Int} (hb : 0 < b) : a * b < 0 ↔ a < 0 := by
  constructor
  · intro hneg
    refine Int.not_le.mp fun hnonneg => ?_
    have hmul := Int.mul_nonneg hnonneg (Int.le_of_lt hb)
    omega
  · intro hneg
    exact Int.mul_neg_of_neg_of_pos hneg hb

/-- The product with a positive integer is exact where all three have no loss. -/
theorem mul_ofInt {n k : Int} (hn : Representable n.natAbs) (hk : Representable k.natAbs)
    (hpositive : 0 < k) (hproduct : Representable (n * k).natAbs) :
    (ofInt n).mul (ofInt k) = ofInt (n * k) := by
  obtain ⟨a, s, hcanonical, hleft, hunits⟩ := ofInt_eq hn
  obtain ⟨b, t, hcanonical', hright, hunits'⟩ := ofInt_eq hk
  have hsign : (decide (n < 0) != decide (k < 0)) = decide (n * k < 0) := by
    have hkneg : ¬ k < 0 := by omega
    simp [mul_neg_iff_of_pos hpositive, hkneg]
  rw [hleft, hright]
  -- a product of two counts of units is divided by the units in one
  show ofUnits (decide (n < 0) != decide (k < 0)) (a * 2 ^ s * (b * 2 ^ t)) one = _
  rw [hsign]
  refine ofUnits_eq_ofInt hproduct one_pos ?_
  rw [hunits, hunits', Int.natAbs_mul, ← Nat.mul_assoc, Nat.mul_right_comm n.natAbs]

/-- A difference is exact where all three have no loss. -/
theorem sub_ofInt {n k : Int} (hn : Representable n.natAbs) (hk : Representable k.natAbs)
    (hdifference : Representable (n - k).natAbs) : (ofInt n).sub (ofInt k) = ofInt (n - k) := by
  obtain ⟨a, s, hcanonical, hleft, hunits⟩ := ofInt_eq hn
  obtain ⟨b, t, hcanonical', hright, hunits'⟩ := ofInt_eq hk
  have hleftUnits := signedUnits?_ofInt hn
  have hrightUnits := signedUnits?_ofInt hk
  rw [hleft] at hleftUnits ⊢
  rw [hright] at hrightUnits ⊢
  have hone : (0 : Int) < one := by exact_mod_cast one_pos
  -- the units of the difference are those of the integer that it is
  have hd : (n : Int) * one - k * one = (n - k) * one := (Int.sub_mul n k one).symm
  simp only [signedUnits?, Option.some.injEq] at hleftUnits hrightUnits
  simp only [sub, hleftUnits, hrightUnits, hd]
  by_cases hsame : n - k = 0
  · -- a zero takes its sign from the two numbers, and no integer is a minus zero
    have hzero : (a == 0 && decide (n < 0) && !decide (k < 0)) = false := by
      have hnk : n = k := by omega
      by_cases hneg : n < 0 <;> simp [← hnk, hneg]
    rw [hsame, if_pos (Int.zero_mul _), hzero, ofInt_zero]
  · have hne : (n - k) * one ≠ 0 := Int.mul_ne_zero hsame (by omega)
    rw [if_neg hne]
    simp only [mul_neg_iff_of_pos hone]
    refine ofUnits_eq_ofInt hdifference Nat.zero_lt_one ?_
    rw [Int.natAbs_mul, Int.natAbs_natCast, Nat.mul_one]

/-! ### Integers that are rounded -/

theorem ofUnits_cases (negative : Bool) (num den : Nat) :
    ofUnits negative num den = .infinity negative ∨
      ∃ m s, ∃ hcanonical : Canonical m s,
        ofUnits negative num den = .finite negative m s hcanonical := by
  unfold ofUnits
  dsimp only
  split
  · next hcanonical => exact Or.inr ⟨_, _, hcanonical, rfl⟩
  · exact Or.inl rfl

theorem ofUnits_ne_nan (negative : Bool) (num den : Nat) : ofUnits negative num den ≠ nan := by
  rcases ofUnits_cases negative num den with h | ⟨m, s, hcanonical, h⟩
  · rw [h]
    exact Binary64.noConfusion
  · rw [h]
    exact Binary64.noConfusion

theorem ofInt_ne_nan (n : Int) : ofInt n ≠ nan := by
  rw [ofInt_eq_ofUnits]
  exact ofUnits_ne_nan _ _ _

/-- The bits of a finite number are those that rounding has given it. -/
theorem roundedBits_of_ofUnits {sign negative : Bool} {num den m s : Nat}
    {hcanonical : Canonical m s} (h : ofUnits sign num den = .finite negative m s hcanonical) :
    roundedBits 53 num den = (m, s) := by
  unfold ofUnits at h
  dsimp only at h
  split at h
  · obtain ⟨-, hm, hs⟩ := Binary64.finite.inj h
    rw [← hm, ← hs]
  · cases h

/-- An integer below `2^1023` is not rounded beyond the finite numbers. -/
theorem exists_finite_ofInt {n : Int} {k : Nat} (hk : k ≤ 1023) (h : n.natAbs < 2 ^ k) :
    ∃ m s, ∃ hcanonical : Canonical m s, ofInt n = .finite (n < 0) m s hcanonical := by
  rcases hbits : roundedBits 53 (n.natAbs * one) 1 with ⟨m, s⟩
  have hunits : n.natAbs * one < 2 ^ (k + 1074) * 1 := by
    rw [Nat.mul_one, ← two_pow_mul_one]
    exact Nat.mul_lt_mul_of_pos_right h one_pos
  have hscale := scale_le_of_roundedBits (by omega) Nat.zero_lt_one hunits hbits
  have hcanonical := canonical_of_roundedBits Nat.zero_lt_one hbits (by omega)
  rw [ofInt_eq_ofUnits]
  exact ⟨m, s, hcanonical, ofUnits_of_roundedBits _ hcanonical hbits⟩

/-- **An integer is rounded to an integer.** Where it loses digits, its scale is above
    the point. -/
theorem exists_integer?_ofInt {n : Int} {k : Nat} (hk : k ≤ 1023) (h : n.natAbs < 2 ^ k) :
    ∃ i, (ofInt n).integer? = some i := by
  by_cases hsmall : n.natAbs < 2 ^ 53
  · exact ⟨n, integer?_ofInt (representable_of_lt hsmall)⟩
  · -- from `2^53` on a scale has at least one unit of one in it, so what is left is a count of
    -- ones
    obtain ⟨m, s, hcanonical, hn⟩ := exists_finite_ofInt hk h
    have hlow : 2 ^ (53 + 1074) * 1 ≤ n.natAbs * one := by
      rw [Nat.mul_one, ← two_pow_mul_one]
      exact Nat.mul_le_mul_right one (Nat.le_of_not_lt hsmall)
    rw [ofInt_eq_ofUnits] at hn
    have hscale := le_scale_of_roundedBits Nat.zero_lt_one hlow (roundedBits_of_ofUnits hn)
    obtain ⟨r, rfl⟩ : ∃ r, s = r + 1074 := ⟨s - 1074, by omega⟩
    have hunits : m * 2 ^ (r + 1074) = m * 2 ^ r * one := by
      rw [← two_pow_mul_one, Nat.mul_assoc]
    rw [ofInt_eq_ofUnits, hn]
    exact ⟨_, integer?_of_units hcanonical hunits⟩

/-! ### Integers that are told apart -/

/-- An integer of `2^53` or more stays that large. -/
theorem le_units_ofInt {n : Int} {negative : Bool} {m s : Nat} {hcanonical : Canonical m s}
    (hn : 2 ^ 53 ≤ n.natAbs) (h : ofInt n = .finite negative m s hcanonical) :
    2 ^ 53 * one ≤ m * 2 ^ s := by
  rw [ofInt_eq_ofUnits] at h
  have hbits : roundedBits 53 (n.natAbs * one) 1 = (m, s) := roundedBits_of_ofUnits h
  have hlow : 2 ^ (53 + 1074) * 1 ≤ n.natAbs * one := by
    rw [Nat.mul_one, ← two_pow_mul_one]
    exact Nat.mul_le_mul_right one hn
  rw [two_pow_mul_one]
  exact le_of_roundedBits (by omega) Nat.zero_lt_one hlow hbits

/-- **Integers are told apart where one of them is below `2^53`.** -/
theorem ofInt_eq_ofInt_iff {n k : Int} (hk : k.natAbs < 2 ^ 53) : ofInt n = ofInt k ↔ n = k := by
  refine ⟨fun h => ?_, fun h => h ▸ rfl⟩
  have hexact := representable_of_lt hk
  by_cases hn : n.natAbs < 2 ^ 53
  · have hleft := integer?_ofInt (representable_of_lt hn)
    rw [h, integer?_ofInt hexact] at hleft
    exact (Option.some.inj hleft).symm
  · -- the larger one has too many units
    obtain ⟨m, s, hcanonical, hright, hunits⟩ := ofInt_eq hexact
    have hlarge := le_units_ofInt (Nat.le_of_not_lt hn) (h.trans hright)
    have hsmall : m * 2 ^ s < 2 ^ 53 * one := by
      rw [hunits]
      exact Nat.mul_lt_mul_of_pos_right hk one_pos
    omega

/-- Only the integer zero becomes a zero. -/
theorem isZero_ofInt {n : Int} : (ofInt n).IsZero ↔ n = 0 := by
  constructor
  · rintro ⟨negative, h⟩
    -- a large integer has units left after rounding, so only a small one can be a zero
    by_cases hn : n.natAbs < 2 ^ 53
    · have hinteger := integer?_ofInt (representable_of_lt hn)
      have hzero : (zero negative).integer? = some 0 := by
        rw [integer?_eq_some_iff, Int.zero_mul]
        cases negative <;> rfl
      rw [h, hzero] at hinteger
      exact (Option.some.inj hinteger).symm
    · have hlarge := le_units_ofInt (Nat.le_of_not_lt hn) h
      have hpos := Nat.mul_pos (Nat.two_pow_pos 53) one_pos
      omega
  · rintro rfl
    exact ⟨false, ofInt_zero⟩

/-- Just the negative integers are below zero, however they are rounded. -/
theorem isBelowZero_ofInt (n : Int) : (ofInt n).isBelowZero = decide (n < 0) := by
  rcases ofUnits_cases (n < 0) (n.natAbs * one) 1 with h | ⟨m, s, hcanonical, h⟩
  · have hn : ofInt n = .infinity (n < 0) := h
    rw [hn]
    rfl
  · have hn : ofInt n = .finite (n < 0) m s hcanonical := h
    by_cases hm : m = 0
    · -- a number without units is that of zero
      subst hm
      have hzero : (ofInt n).IsZero := by
        rw [hn]
        exact isZero_of_units hcanonical (Nat.zero_mul _)
      rw [isZero_ofInt.mp hzero, ofInt_zero]
      rfl
    · rw [hn]
      simp [isBelowZero, hm]

/-- The numbers of integers are equal as numbers only if they are the same. -/
theorem equals_ofInt {n k : Int} : (ofInt n).Equals (ofInt k) ↔ ofInt n = ofInt k := by
  constructor
  · rintro ⟨-, h | ⟨hn, hk⟩⟩
    · exact h
    · rw [isZero_ofInt.mp hn, isZero_ofInt.mp hk]
  · intro h
    exact ⟨ofInt_ne_nan n, Or.inl h⟩

end Binary64

end Phrasebook
