import Phrasebook.Proofs.Locale.Money
import Phrasebook.Proofs.Locale.Rounded

/-! # Amounts of real numbers

    An amount shows the nearest number of minor units of its currency. Where two numbers
    of them are equally near, the even one is shown, while the styles that show the
    nearest integer take the one away from zero. So the two ways to round differ only on
    ties, and there only if the number below the tie is even: the amount is then a minor
    unit less than what the other way gives.
-/

namespace Phrasebook

namespace Binary64

/-! ### Nearest numbers -/

/-- A natural number is at most a half away from a quotient, and if the quotient lies in
    the middle between two natural numbers, it is the one that the tie takes. -/
structure Tie.Nearest (tie : Tie) (num den n : Nat) : Prop where
  near : 2 * ((num : Int) - n * den).natAbs ≤ den
  chosen : ∀ c, 2 * num = (2 * c + 1) * den → n = tie.choose c

section
variable {tie : Tie} {num den n k : Nat}

theorem middle_mul (n den : Nat) : (2 * n + 1) * den = 2 * (n * den) + den := by
  rw [Nat.succ_mul, Nat.mul_assoc]

theorem Tie.Nearest.le (hn : tie.Nearest num den n) (hk : tie.Nearest num den k) : k ≤ n := by
  refine Nat.le_of_not_lt fun hlt => ?_
  -- both are a half away, so they are the two that the tie chooses from
  have hstep : (n + 1) * den ≤ k * den := Nat.mul_le_mul_right den hlt
  have hnear := hn.near
  have hnear' := hk.near
  rw [← Int.natCast_mul] at hnear hnear'
  rw [Nat.succ_mul] at hstep
  have hmiddle : 2 * num = (2 * n + 1) * den := by
    rw [middle_mul]
    omega
  rw [hn.chosen n hmiddle, hk.chosen n hmiddle] at hlt
  exact Nat.lt_irrefl _ hlt

theorem Tie.Nearest.unique (hn : tie.Nearest num den n) (hk : tie.Nearest num den k) : n = k :=
  Nat.le_antisymm (hk.le hn) (hn.le hk)

/-- In the middle above a natural number the quotient is rounded down to it, and the
    remainder is a half. -/
theorem div_of_tie (hden : 0 < den) (h : 2 * num = (2 * n + 1) * den) :
    num / den = n ∧ 2 * (num % den) = den := by
  rw [middle_mul] at h
  have hquotient : num / den = n := by
    apply Nat.div_eq_of_lt_le
    · omega
    · rw [Nat.succ_mul]
      omega
  have hdiv : den * (num / den) + num % den = num := Nat.div_add_mod num den
  rw [hquotient, Nat.mul_comm] at hdiv
  exact ⟨hquotient, by omega⟩

/-- A rounded quotient is the nearest natural number, of two the even one. -/
theorem nearest_roundedQuotient (num : Nat) (hden : 0 < den) :
    Tie.toEven.Nearest num den (roundedQuotient num den) := by
  have hdiv : num / den * den + num % den = num := Nat.div_add_mod' num den
  have hmod : num % den < den := Nat.mod_lt num hden
  have hnext : (num / den + 1) * den = num / den * den + den := Nat.succ_mul _ _
  unfold roundedQuotient
  constructor
  · dsimp only
    rw [← Int.natCast_mul]
    split
    · omega
    · split
      · rw [hnext]
        omega
      · -- on a tie both neighbours are near, and the quotient goes up just if it is odd
        rcases Nat.mod_two_eq_zero_or_one (num / den) with heven | hodd
        · rw [heven, Nat.add_zero]
          omega
        · rw [hodd, hnext]
          omega
  · -- a tie leaves a half as the remainder, so the parity decides
    intro c hc
    obtain ⟨hquotient, hhalf⟩ := div_of_tie hden hc
    simp only [hhalf, hquotient, Nat.lt_irrefl, if_false]
    rfl

/-- Away from ties above even numbers the two ways to round agree; on such a tie the one
    that does not go to the even number gives the next one. -/
theorem Tie.Nearest.upward (hden : 0 < den) (h : Tie.toEven.Nearest num den k) :
    Tie.upward.Nearest num den
      (if 2 * num = (2 * k + 1) * den ∧ k % 2 = 0 then k + 1 else k) := by
  split
  · next htie =>
    obtain ⟨hmiddle, -⟩ := htie
    constructor
    · rw [← Int.natCast_mul, Nat.succ_mul k]
      rw [middle_mul] at hmiddle
      omega
    · intro c hc
      -- the tie above one natural number is not that above another
      have hsame : k = c := (div_of_tie hden hmiddle).1.symm.trans (div_of_tie hden hc).1
      rw [hsame]
      rfl
  · next hother =>
    refine ⟨h.near, ?_⟩
    intro c hc
    -- the number below the tie is odd, and above it both ways go up
    have hchosen : k = c + c % 2 := h.chosen c hc
    rcases Nat.mod_two_eq_zero_or_one c with heven | hodd
    · obtain rfl : k = c := by omega
      exact absurd ⟨hc, heven⟩ hother
    · rw [hchosen, hodd]
      rfl

end

/-- The integer that a magnitude is rounded to is the nearest one, of two the larger. -/
theorem nearest_roundedUnits (u : Nat) : Tie.upward.Nearest u one ((u + one / 2) / one) := by
  refine ⟨(roundedUnits_eq_iff.mp rfl).1, ?_⟩
  intro c hc
  have hhalf := two_mul_half_one
  have hnext : u + one / 2 = (c + 1) * one := by
    rw [middle_mul] at hc
    rw [Nat.succ_mul]
    omega
  rw [hnext, Nat.mul_div_cancel _ one_pos]
  rfl

end Binary64

/-! ### Amounts -/

namespace Locale

open Binary64

/-- The digits behind the decimal separator of an amount. -/
def places (l : Locale) : Nat :=
  (Currency.ofCode l.currency).places

/-- The amount of a number of minor units, with a minus sign in front if it is negative. -/
def amountText (l : Locale) (negative : Bool) (minor : Nat) : String :=
  String.ofList ((if negative then ['-'] else []) ++
    l.tag.currencyAffixes.apply false (l.data.symbols.chars ⟨false, minor, l.places⟩)
      (Currency.ofCode l.currency).symbol.toList)

theorem currencyText_of_units (l : Locale) {x : Binary64} {u : Nat} (hu : x.units? = some u) :
    l.currencyText (.real x) =
      .ok (l.amountText x.isBelowZero (roundedQuotient (u * 10 ^ l.places) one)) := by
  cases x with
  | nan => cases hu
  | infinity negative => cases hu
  | finite negative m s hcanonical =>
    obtain rfl : m * 2 ^ s = u := Option.some.inj hu
    unfold amountText
    rw [← Affixes.apply_sign]
    rfl

theorem integerText_abs_eq_ok {l : Locale} {x : Binary64} {u : Nat} (hu : x.units? = some u)
    {s : String} (h : l.integerText (.real x.abs) = .ok s) :
    s = l.decimalText ⟨false, (u + one / 2) / one, 0⟩ := by
  -- that the style has an answer says that the nearest integer has 64 bits
  obtain ⟨n, hn, rfl⟩ := map_eq_ok_iff.mp h
  have hrounded : x.abs.nearestInteger? = some n.toInt := by
    unfold rounded Quantity.rounded? at hn
    split at hn
    · next n' hn' =>
      obtain rfl : n' = n := Except.ok.inj hn
      obtain ⟨i, hi, hword⟩ := Option.bind_eq_some_iff.mp hn'
      rw [hi, Text.word?_eq_some_iff.mp hword]
    · cases hn
  cases x with
  | nan => cases hu
  | infinity negative => cases hu
  | finite negative m s hcanonical =>
    obtain rfl : m * 2 ^ s = u := Option.some.inj hu
    have hinteger : (((m * 2 ^ s + one / 2) / one : Nat) : Int) = n.toInt :=
      Option.some.inj hrounded
    have hsign : ¬ n.toInt < 0 := by
      rw [← hinteger]
      exact Int.not_lt.mpr (Int.natCast_nonneg _)
    rw [← hinteger, Decimal.ofInt, Int.natAbs_natCast, hinteger, decide_eq_false hsign]

/-- **Amounts of real numbers.** Every finite number has an amount in every currency. It
    shows the nearest number of minor units, of two the even one, behind a minus sign just
    for a number below zero. Rounding half away from zero gives the same number of minor
    units, but for a tie above an even one, where it gives the next. In a currency without
    minor units this is what the integer style shows of the magnitude, whenever it shows
    anything. -/
theorem amount_of_real (l : Locale) {x : Binary64} {u : Nat} (hu : x.units? = some u) :
    ∃ even away : Nat,
      l.number .currency (.real x) = .ok (l.amountText x.isBelowZero even) ∧
      Tie.toEven.Nearest (u * 10 ^ l.places) one even ∧
      Tie.upward.Nearest (u * 10 ^ l.places) one away ∧
      away = (if 2 * (u * 10 ^ l.places) = (2 * even + 1) * one ∧ even % 2 = 0 then even + 1
        else even) ∧
      (l.places = 0 → ∀ s, l.number .integer (.real x.abs) = .ok s →
        s = l.decimalText ⟨false, away, l.places⟩) := by
  -- one count of minor units rounded in two ways, which agree but on a tie above an even
  -- number
  have heven := nearest_roundedQuotient (u * 10 ^ l.places) Binary64.one_pos
  have haway := heven.upward Binary64.one_pos
  refine ⟨_, _, currencyText_of_units l hu, heven, haway, rfl, ?_⟩
  intro hplaces s hs
  -- without minor units the amount is rounded as the integer style would round it upwards
  have hunits : u * 10 ^ l.places = u := by rw [hplaces, Nat.pow_zero, Nat.mul_one]
  rw [hunits] at haway ⊢
  rw [integerText_abs_eq_ok hu hs, (nearest_roundedUnits u).unique haway, hplaces]

/-- An eighth of a dollar is in the middle above twelve cents. -/
theorem amount_of_an_eighth :
    let eighth := Binary64.ofRatio false 1 8
    eighth.units? = some (2 ^ 1071) ∧
      english.number .currency (.real eighth) = .ok "$0.12" ∧
      Tie.upward.Nearest (2 ^ 1071 * 10 ^ english.places) one 13 := by
  intro eighth
  have hvalues : eighth.units? = some (2 ^ 1071) ∧ eighth.isBelowZero = false ∧
      roundedQuotient (2 ^ 1071 * 10 ^ english.places) one = 12 ∧
      2 * (2 ^ 1071 * 10 ^ english.places) = (2 * 12 + 1) * one ∧
      english.amountText false 12 = "$0.12" := by
    decide +kernel
  obtain ⟨hu, hsign, hquotient, htie, hshown⟩ := hvalues
  obtain ⟨even, away, htext, heven, haway, hrelation, -⟩ := amount_of_real english hu
  have hnearest := nearest_roundedQuotient (2 ^ 1071 * 10 ^ english.places) Binary64.one_pos
  rw [hquotient] at hnearest
  obtain rfl : even = 12 := heven.unique hnearest
  obtain rfl : away = 13 := by rw [hrelation, if_pos ⟨htie, rfl⟩]
  rw [hsign, hshown] at htext
  exact ⟨hu, htext, haway⟩

/-- **Amounts are not rounded as integers are.** In a currency without minor units a half
    above an even number shows another number than in the integer style. -/
theorem amount_of_half_yen :
    let yen := english.withCurrency "JPY"
    let x := Binary64.ofRatio false 5 2
    x.RoundsTo 3 ∧ yen.number .integer (.real x.abs) = .ok "3" ∧
      yen.number .currency (.real x) = .ok "¥2" := by
  decide +kernel

end Locale

end Phrasebook
