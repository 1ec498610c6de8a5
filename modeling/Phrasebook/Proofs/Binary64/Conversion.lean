import Phrasebook.Number.Quantity
import Phrasebook.Proofs.Binary64.Nearest

/-! # Conversion to integers of 64 bits

    A machine turns a binary number into an integer of 64 bits by a cast that always gives
    one: it cuts the fraction off and stops at the ends of the range. Whether the cast has
    given the number itself has to be asked before, by comparing the number with the binary
    numbers of the two ends. The upper end is no binary number and is rounded up to `2^63`,
    which has no word, so that comparison has to be strict.

    Asked in this way the cast gives just the integers that a quantity is, and behind
    rounding just the integers that a quantity is rounded to.
-/

namespace Phrasebook

namespace Binary64

/-! ### Comparing -/

/-- How two numbers compare: the zeros are equal, and not-a-number compares with nothing. -/
def compare? : Binary64 → Binary64 → Option Ordering
  | nan, _ => none
  | _, nan => none
  | infinity n, infinity m => some (if n = m then .eq else if n then .lt else .gt)
  | infinity n, finite .. => some (if n then .lt else .gt)
  | finite .., infinity m => some (if m then .gt else .lt)
  | finite n a s _, finite m b t _ =>
    let x : Int := (a * 2 ^ s : Nat)
    let y : Int := (b * 2 ^ t : Nat)
    some (compare (if n then -x else x) (if m then -y else y))

def isAtLeast (x y : Binary64) : Bool :=
  (x.compare? y).any Ordering.isGE

def isBelow (x y : Binary64) : Bool :=
  (x.compare? y).any Ordering.isLT

section
variable {x y : Binary64} {u v : Int}

/-- Finite numbers compare as their units. -/
theorem compare?_of_signedUnits? (hx : x.signedUnits? = some u) (hy : y.signedUnits? = some v) :
    x.compare? y = some (compare u v) := by
  cases x with
  | nan => cases hx
  | infinity negative => cases hx
  | finite n a s h =>
    cases y with
    | nan => cases hy
    | infinity negative => cases hy
    | finite m b t h' =>
      rw [← Option.some.inj hx, ← Option.some.inj hy]
      rfl

theorem isAtLeast_of_signedUnits? (hx : x.signedUnits? = some u) (hy : y.signedUnits? = some v) :
    x.isAtLeast y = decide (v ≤ u) := by
  rw [isAtLeast, compare?_of_signedUnits? hx hy, Option.any_some, Bool.eq_iff_iff,
    decide_eq_true_eq]
  exact Int.isGE_compare

theorem isBelow_of_signedUnits? (hx : x.signedUnits? = some u) (hy : y.signedUnits? = some v) :
    x.isBelow y = decide (u < v) := by
  rw [isBelow, compare?_of_signedUnits? hx hy, Option.any_some, Bool.eq_iff_iff,
    decide_eq_true_eq]
  exact Ordering.isLT_iff_eq_lt.trans Int.compare_eq_lt

end

/-! ### The ends of the range -/

/-- The least integer of 64 bits is a binary number. -/
theorem signedUnits?_ofInt_minValue :
    (ofInt Int64.minValue.toInt).signedUnits? = some ((-2 ^ 63 : Int) * one) := by
  have hmin : Int64.minValue.toInt = -2 ^ 63 := rfl
  have hexact : Representable (-2 ^ 63 : Int).natAbs := ⟨1, 63, by decide, by decide, by decide⟩
  rw [hmin]
  exact signedUnits?_ofInt hexact

theorem ofInt_natCast (k : Nat) : ofInt k = ofUnits false (k * one) 1 := by
  have hsign : ¬ (k : Int) < 0 := Int.not_lt.mpr (Int.natCast_nonneg k)
  rw [ofInt_eq_ofUnits, Int.natAbs_natCast, decide_eq_false hsign]

/-- The greatest integer of 64 bits is not: it is rounded up to the next one. -/
theorem ofInt_maxValue : ofInt Int64.maxValue.toInt = ofInt (2 ^ 63) := by
  -- below `2^63` numbers are `2^10` apart, so the integer before it is rounded up
  have hcanonical : Canonical (2 ^ 52) (11 + 1074) := by decide
  have hreach : reachBelow (2 ^ 52) (11 + 1074) = 2 ^ 11 * one := by
    rw [two_pow_mul_one]
    exact if_pos ⟨rfl, by decide⟩
  have hup : ofUnits false ((2 ^ 63 - 1) * one) 1 = .finite false _ _ hcanonical := by
    apply ofUnits_of_holds false hcanonical Nat.zero_lt_one
    rw [span_holds_iff, hreach, ← two_pow_mul_one]
    omega
  have hexact : ofUnits false (2 ^ 63 * one) 1 = .finite false _ _ hcanonical := by
    apply ofUnits_of_eq false hcanonical Nat.zero_lt_one
    rw [← two_pow_mul_one]
    omega
  have hmax : Int64.maxValue.toInt = ((2 ^ 63 - 1 : Nat) : Int) := rfl
  have hnext : (2 ^ 63 : Int) = ((2 ^ 63 : Nat) : Int) := rfl
  rw [hmax, hnext, ofInt_natCast, ofInt_natCast, hup, hexact]

theorem signedUnits?_ofInt_maxValue :
    (ofInt Int64.maxValue.toInt).signedUnits? = some ((2 ^ 63 : Int) * one) := by
  have hexact : Representable (2 ^ 63 : Int).natAbs := ⟨1, 63, by decide, by decide, by decide⟩
  rw [ofInt_maxValue]
  exact signedUnits?_ofInt hexact

/-! ### Cutting and rounding -/

/-- There is nothing behind the point. -/
def isWhole : Binary64 → Bool
  | finite _ mantissa scale _ => mantissa * 2 ^ scale % one == 0
  | _ => false

/-- The cast to 64 bits. It cuts off what is behind the point, takes the end of the range
    for what is beyond it, and zero for not-a-number. -/
def saturated : Binary64 → Int64
  | nan => 0
  | infinity negative => if negative then Int64.minValue else Int64.maxValue
  | finite negative mantissa scale _ =>
    let n : Int := (mantissa * 2 ^ scale / one : Nat)
    .ofIntClamp (if negative then -n else n)

/-- The number rounded to a whole number, a half going away from zero. -/
def roundedAway : Binary64 → Binary64
  | finite negative mantissa scale _ =>
    ofUnits negative ((mantissa * 2 ^ scale + one / 2) / one * one) 1
  | x => x

/-- The cast of a whole number between the ends of the range; none for other numbers. -/
def checkedWord? (x : Binary64) : Option Int64 :=
  if x.isFinite && x.isWhole && x.isAtLeast (.ofInt Int64.minValue.toInt) &&
      x.isBelow (.ofInt Int64.maxValue.toInt) then
    some x.saturated
  else none

/-! ### What the cast gives -/

/-- Whole numbers are the integers among the numbers. -/
theorem isWhole_iff {x : Binary64} : x.isWhole = true ↔ ∃ n, x.integer? = some n := by
  cases x with
  | nan => exact ⟨nofun, fun ⟨_, h⟩ => nomatch h⟩
  | infinity negative => exact ⟨nofun, fun ⟨_, h⟩ => nomatch h⟩
  | finite negative m s hcanonical =>
    show (m * 2 ^ s % one == 0) = true ↔ _
    rw [beq_iff_eq]
    constructor
    · intro hwhole
      have hdvd : one ∣ m * 2 ^ s := Nat.dvd_of_mod_eq_zero hwhole
      exact ⟨_, integer?_of_units hcanonical (Nat.div_mul_cancel hdvd).symm⟩
    · rintro ⟨n, hn⟩
      rw [units_of_integer? hn]
      exact Nat.mul_mod_left _ _

/-- From a whole number the cast cuts nothing off. -/
theorem saturated_of_integer? {x : Binary64} {n : Int} (h : x.integer? = some n) :
    x.saturated = .ofIntClamp n := by
  cases x with
  | nan => cases h
  | infinity negative => cases h
  | finite negative m s hcanonical =>
    have hunits := units_of_integer? h
    have hquotient : m * 2 ^ s / one = n.natAbs := by
      rw [hunits, Nat.mul_div_cancel _ one_pos]
    have hsigned : (if negative then -(n.natAbs : Int) else n.natAbs) = n :=
      Option.some.inj ((integer?_of_units hcanonical hunits).symm.trans h)
    show Int64.ofIntClamp _ = _
    rw [hquotient, hsigned]

/-- Within the range it does not stop at an end either. -/
theorem word?_ofIntClamp {n : Int} (h : -2 ^ 63 ≤ n ∧ n < 2 ^ 63) :
    Text.word? n = some (.ofIntClamp n) := by
  have hmin : Int64.minValue.toInt = -2 ^ 63 := rfl
  have hmax : Int64.maxValue.toInt = 2 ^ 63 - 1 := rfl
  exact Text.word?_eq_some_iff.mpr (Int64.toInt_ofIntClamp (by omega) (by omega)).symm

/-- **The cast gives the integers of 64 bits** behind the two comparisons. -/
theorem checkedWord?_eq (x : Binary64) : x.checkedWord? = x.integer?.bind Text.word? := by
  cases h : x.integer? with
  | none =>
    have hfraction : x.isWhole = false := by
      rw [← Bool.not_eq_true, isWhole_iff, h]
      exact fun ⟨_, hn⟩ => nomatch hn
    simp [checkedWord?, hfraction]
  | some n =>
    have hunits := integer?_eq_some_iff.mp h
    have hfinite : x.isFinite = true := by
      cases x with
      | nan => cases h
      | infinity negative => cases h
      | finite => rfl
    -- once the number is an integer, both bounds are comparisons of integers of units
    have hwhole : x.isWhole = true := isWhole_iff.mpr ⟨n, h⟩
    have hone : (0 : Int) < one := Int.natCast_pos.mpr one_pos
    have hlow : x.isAtLeast (.ofInt Int64.minValue.toInt) = decide (-2 ^ 63 ≤ n) := by
      rw [isAtLeast_of_signedUnits? hunits signedUnits?_ofInt_minValue]
      exact decide_eq_decide.mpr (Int.mul_le_mul_right hone)
    have hhigh : x.isBelow (.ofInt Int64.maxValue.toInt) = decide (n < 2 ^ 63) := by
      rw [isBelow_of_signedUnits? hunits signedUnits?_ofInt_maxValue]
      exact decide_eq_decide.mpr (Int.mul_lt_mul_right hone)
    show x.checkedWord? = Text.word? n
    unfold checkedWord?
    rw [hfinite, hwhole, hlow, hhigh, Bool.true_and, Bool.true_and, ← Bool.decide_and]
    simp only [decide_eq_true_eq]
    by_cases hrange : -2 ^ 63 ≤ n ∧ n < 2 ^ 63
    · rw [if_pos hrange, word?_ofIntClamp hrange, saturated_of_integer? h]
    · rw [if_neg hrange, Text.word?, if_neg hrange]

/-- The magnitude of a nearest integer has no loss. -/
theorem representable_rounded {m s : Nat} (hcanonical : Canonical m s) :
    Representable ((m * 2 ^ s + one / 2) / one) := by
  obtain ⟨hm, hs, -⟩ := hcanonical
  have hpos := one_pos
  by_cases hscale : 1074 ≤ s
  · -- above the point there is nothing to round
    obtain ⟨r, rfl⟩ : ∃ r, s = r + 1074 := ⟨s - 1074, by omega⟩
    refine ⟨m, r, hm, by omega, ?_⟩
    have hhalf : one / 2 < one := by omega
    rw [← two_pow_mul_one, ← Nat.mul_assoc, Nat.add_comm, Nat.add_mul_div_right _ _ hpos,
      Nat.div_eq_of_lt hhalf, Nat.zero_add]
  · -- below the point 53 bits are at most 52 bits of an integer and a half
    have hpower : 2 ^ (s + 1) ≤ 2 ^ 0 * one := two_pow_le_units (by omega)
    simp only [Nat.pow_succ', Nat.pow_zero, Nat.one_mul] at hpower
    have hunits : m * (2 * 2 ^ s) ≤ 2 ^ 53 * one := Nat.mul_le_mul (Nat.le_of_lt hm) hpower
    rw [Nat.mul_left_comm] at hunits
    have hquotient : (m * 2 ^ s + one / 2) / one < 2 ^ 52 + 1 := by
      apply Nat.div_lt_of_lt_mul
      omega
    exact representable_of_lt (by omega)

/-- **Rounding stays within the binary numbers**: the nearest integer is one of them. -/
theorem integer?_roundedAway (x : Binary64) : x.roundedAway.integer? = x.nearestInteger? := by
  cases x with
  | nan => rfl
  | infinity negative => rfl
  | finite negative m s hcanonical =>
    obtain ⟨m', s', hcanonical', hunits⟩ := (representable_rounded hcanonical).exists_units
    have hrounded : (finite negative m s hcanonical).roundedAway =
        .finite negative m' s' hcanonical' := by
      apply ofUnits_of_eq negative hcanonical' Nat.zero_lt_one
      rw [hunits, Nat.mul_one]
    rw [hrounded]
    exact integer?_of_units hcanonical' hunits

end Binary64

/-! ### Quantities -/

namespace Quantity

/-- The integer that a binary number is comes out of the cast. -/
theorem integer?_real (x : Binary64) : (real x).integer? = x.checkedWord? :=
  x.checkedWord?_eq.symm

/-- So does the integer that it is rounded to, once it is rounded as a binary number. -/
theorem rounded?_real (x : Binary64) : (real x).rounded? = x.roundedAway.checkedWord? := by
  rw [Binary64.checkedWord?_eq, Binary64.integer?_roundedAway]
  rfl

end Quantity

end Phrasebook
