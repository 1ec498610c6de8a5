import Phrasebook.Binary64.Basic

/-! # Equality of binary numbers

    A finite number has one canonical form, so two numbers are equal as numbers
    exactly when they are the same number, not-a-number apart and zero without
    regard to its sign.
-/

namespace Phrasebook

namespace Binary64

/-! ### Canonical forms -/

/-- A canonical form of the least scale that a magnitude has is of no greater
    scale than any other canonical form of it. -/
theorem Canonical.scale_le {m s m' s' : Nat} (h : Canonical m s) (h' : Canonical m' s')
    (heq : m * 2 ^ s = m' * 2 ^ s') : s' ≤ s := by
  refine Nat.le_of_not_lt fun hlt => ?_
  obtain ⟨d, rfl⟩ : ∃ d, s' = s + (d + 1) := ⟨s' - s - 1, by omega⟩
  obtain ⟨hm, _, _⟩ := h
  obtain ⟨_, _, hm'⟩ := h'
  have hfull : 2 ^ 52 ≤ m' := hm'.resolve_right (by omega)
  -- the smaller scale would need a mantissa of more than 53 bits
  have hmantissa : m = m' * 2 ^ (d + 1) := by
    rw [Nat.pow_add, ← Nat.mul_assoc, Nat.mul_right_comm] at heq
    exact Nat.eq_of_mul_eq_mul_right (Nat.two_pow_pos s) heq
  have hdouble : m' * 2 ≤ m' * 2 ^ (d + 1) :=
    Nat.mul_le_mul_left m' (Nat.le_self_pow (Nat.succ_ne_zero d) 2)
  omega

theorem Canonical.unique {m s m' s' : Nat} (h : Canonical m s) (h' : Canonical m' s')
    (heq : m * 2 ^ s = m' * 2 ^ s') : m = m' ∧ s = s' := by
  have hs : s = s' := Nat.le_antisymm (h'.scale_le h heq.symm) (h.scale_le h' heq)
  subst hs
  exact ⟨Nat.eq_of_mul_eq_mul_right (Nat.two_pow_pos s) heq, rfl⟩

/-! ### Equality as numbers -/

def IsZero (x : Binary64) : Prop := ∃ negative, x = zero negative

instance (x : Binary64) : Decidable x.IsZero :=
  decidable_of_iff (x = zero false ∨ x = zero true) (by simp [IsZero])

/-- Equality as numbers: not-a-number equals nothing, and the two zeros are equal. -/
def Equals (x y : Binary64) : Prop :=
  x ≠ nan ∧ (x = y ∨ x.IsZero ∧ y.IsZero)

instance (x y : Binary64) : Decidable (x.Equals y) :=
  inferInstanceAs (Decidable (_ ∧ (_ ∨ _ ∧ _)))

/-- Just the zeros are equal to a zero. -/
theorem equals_of_isZero {x y : Binary64} (hy : y.IsZero) : x.Equals y ↔ x.IsZero := by
  constructor
  · rintro ⟨-, rfl | ⟨hx, -⟩⟩
    · exact hy
    · exact hx
  · intro hx
    refine ⟨?_, Or.inr ⟨hx, hy⟩⟩
    rintro rfl
    obtain ⟨negative, h⟩ := hx
    cases h

/-- A finite number without units is a zero. -/
theorem isZero_of_units {negative : Bool} {m s : Nat} (h : Canonical m s)
    (hunits : m * 2 ^ s = 0) : IsZero (.finite negative m s h) := by
  have hm : m = 0 := (Nat.mul_eq_zero.mp hunits).resolve_right (Nat.ne_of_gt (Nat.two_pow_pos s))
  obtain ⟨_, _, hs⟩ := id h
  have hscale : s = 0 := hs.resolve_left (by omega)
  subst hm hscale
  exact ⟨negative, rfl⟩

/-- Finite numbers of the same units are the same, or are two zeros. -/
theorem eq_or_isZero_of_signedUnits {x y : Binary64} {u : Int} (hx : x.signedUnits? = some u)
    (hy : y.signedUnits? = some u) : x = y ∨ x.IsZero ∧ y.IsZero := by
  cases x with
  | nan => cases hx
  | infinity n => cases hx
  | finite n m s h =>
    cases y with
    | nan => cases hy
    | infinity n' => cases hy
    | finite n' m' s' h' =>
      simp only [signedUnits?, Option.some.injEq] at hx hy
      have hunits : m * 2 ^ s = m' * 2 ^ s' := by
        subst hx
        split at hy <;> split at hy <;> omega
      obtain ⟨rfl, rfl⟩ := h.unique h' hunits
      by_cases hsign : n = n'
      · subst hsign
        exact Or.inl rfl
      · -- opposite signs agree only where there are no units at all
        have hnone : m * 2 ^ s = 0 := by
          generalize m * 2 ^ s = k at hx hy ⊢
          subst hx
          cases n <;> cases n' <;> simp at hsign hy <;> omega
        exact Or.inr ⟨isZero_of_units h hnone, isZero_of_units h' hnone⟩

/-- The comparison that exact keys are found by is equality as numbers. -/
theorem sameValue_iff {x y : Binary64} : x.sameValue y = true ↔ x.Equals y := by
  constructor
  · intro h
    unfold sameValue at h
    split at h
    · next n m =>
      obtain rfl : n = m := by simpa using h
      exact ⟨by simp, Or.inl rfl⟩
    · next x y _ =>
      split at h
      · next u v hx hy =>
        obtain rfl : u = v := by simpa using h
        refine ⟨?_, eq_or_isZero_of_signedUnits hx hy⟩
        rintro rfl
        cases hx
      · cases h
  · rintro ⟨hnan, rfl | ⟨⟨n, rfl⟩, m, rfl⟩⟩
    · cases x with
      | nan => exact absurd rfl hnan
      | infinity n => simp [sameValue]
      | finite n m s h => simp [sameValue, signedUnits?]
    · cases n <;> cases m <;> rfl

end Binary64

end Phrasebook
