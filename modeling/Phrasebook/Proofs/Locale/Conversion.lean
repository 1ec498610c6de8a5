import Phrasebook.Proofs.Binary64.Conversion
import Phrasebook.Proofs.Binary64.Value
import Phrasebook.Proofs.Locale.Percent

/-! # Integers out of binary numbers

    Several styles turn a binary number into an integer of 64 bits before they show it. The
    integer is the one that the number is, or the one nearest to it, by the exact values of
    both. Where that has no place in 64 bits there is none, and the number is an error: no
    style shows an integer that was cut down to the range.
-/

namespace Phrasebook

theorem exists_toInt_iff {P : ℤ → Prop} :
    (∃ n : Int64, P n.toInt) ↔ ∃ k, P k ∧ -2 ^ 63 ≤ k ∧ k < 2 ^ 63 := by
  constructor
  · rintro ⟨n, hn⟩
    exact ⟨n.toInt, hn, n.le_toInt, n.toInt_lt⟩
  · rintro ⟨k, hk, hlow, hhigh⟩
    refine ⟨Int64.ofInt k, ?_⟩
    rwa [Int64.toInt_ofInt_of_le hlow hhigh]

/-- A binary number is an integer of 64 bits just if that is its value. -/
theorem Quantity.integer?_real_eq_some_iff {x : Binary64} {n : Int64} :
    (real x).integer? = some n ↔ x.value? = some (n.toInt : ℚ) := by
  show x.integer?.bind Text.word? = some n ↔ _
  simp only [Option.bind_eq_some_iff, Text.word?_eq_some_iff, exists_eq_right,
    Binary64.integer?_eq_some_iff_value?]

namespace Locale

/-! ### Rounding -/

section
variable {q : Quantity} {n : Int64} {e : LocaleError}

theorem rounded_eq_ok_iff : rounded q = .ok n ↔ q.rounded? = some n := by
  unfold rounded
  split
  · next m h => rw [h, Except.ok.injEq, Option.some.injEq]
  · next h => simp [h]

/-- What cannot be rounded is an error that shows the number as it was given. -/
theorem rounded_eq_error_iff :
    rounded q = .error e ↔ e = .invalidNumber q.text ∧ ¬ ∃ n, rounded q = .ok n := by
  simp only [rounded_eq_ok_iff]
  unfold rounded
  split
  · next m h => simp [h]
  · next h => simp [h, eq_comm]

/-- A binary number is rounded to the nearest integer, if that has 64 bits. -/
theorem rounded_real_eq_ok_iff {x : Binary64} : rounded (.real x) = .ok n ↔ x.RoundsTo n.toInt := by
  rw [rounded_eq_ok_iff, ← Binary64.nearestInteger?_eq_some_iff]
  show x.nearestInteger?.bind Text.word? = some n ↔ _
  simp only [Option.bind_eq_some_iff, Text.word?_eq_some_iff, exists_eq_right]

end

/-! ### The styles that show a rounded number -/

section
variable (l : Locale) {style : NumberStyle} {q : Quantity}

theorem number_of_rounded_error (hstyle : style ∈ roundingStyles) {e : LocaleError}
    (h : rounded q = .error e) : ∃ e, l.number style q = .error e := by
  cases style with
  | integer =>
    show ∃ e, (rounded q).map _ = .error e
    rw [h]
    exact ⟨e, rfl⟩
  | duration =>
    show ∃ e, (rounded q).map _ = .error e
    rw [h]
    exact ⟨e, rfl⟩
  | ordinal =>
    -- a rank has one more way to fail, which is met first: only English has suffixes
    show ∃ e, l.ordinalText q = .error e
    unfold ordinalText
    rw [h]
    split
    · exact ⟨_, rfl⟩
    · exact ⟨e, rfl⟩
  | plain | percent | currency | spellout => simp [roundingStyles] at hstyle

/-- What is shown is what the style shows of an integer that the number is rounded to. -/
theorem number_eq_ok_iff (hstyle : style ∈ roundingStyles) {s : String} :
    l.number style q = .ok s ↔ ∃ n, rounded q = .ok n ∧ l.number style (.integer n) = .ok s := by
  constructor
  · intro hs
    -- either there is an integer, and both sides show it, or there is none and nothing is shown
    rcases ok_or_error (rounded q) with ⟨n, hn⟩ | ⟨e, he⟩
    · have hsame : l.number style q = l.number style (.integer n) :=
        l.number_of_rounded hstyle hn
      exact ⟨n, hn, hsame ▸ hs⟩
    · obtain ⟨e', he'⟩ := l.number_of_rounded_error hstyle he
      rw [he'] at hs
      cases hs
  · rintro ⟨n, hn, hs⟩
    have hsame : l.number style q = l.number style (.integer n) := l.number_of_rounded hstyle hn
    rw [hsame]
    exact hs

/-- A percentage shows the sign and the magnitude of what a hundred times the number is
    rounded to. -/
theorem percent_eq_ok_iff {s : String} :
    l.number .percent q = .ok s ↔
      ∃ p, rounded (.real (q.toBinary64.mul (.ofInt 100))) = .ok p ∧
        s = String.ofList (l.tag.percentAffixes.apply (p < 0)
          (l.data.symbols.chars (.ofInt (percentMagnitude p))) []) := by
  show (rounded _).map _ = .ok s ↔ _
  simp only [map_eq_ok_iff, toInt_clamp_natAbs, eq_comm (a := s)]

end

/-! ### Integers of binary numbers -/

/-- **Integers come out of binary numbers exactly.** Let a finite number be taken for the
    rational number that it is. It is an integer of 64 bits just if its value is one. It is
    rounded to the integer nearest to its value, a half going away from zero, if that has 64
    bits, and is an error in every other case. This is what the cast of the machine gives
    behind the comparisons with the ends of the range. So whatever the styles show that
    round a number, they show of an integer that the number is rounded to. -/
theorem integers_of_reals_are_exact (x : Binary64) :
    (∀ n : Int64, (Quantity.real x).integer? = some n ↔ x.value? = some (n.toInt : ℚ)) ∧
    ((∃ n, (Quantity.real x).integer? = some n) ↔
      ∃ k : ℤ, x.value? = some (k : ℚ) ∧ -2 ^ 63 ≤ k ∧ k < 2 ^ 63) ∧
    (∀ k : ℤ, x.RoundsTo k ↔
      ∃ q, x.value? = some q ∧ |q - k| ≤ 1 / 2 ∧ (|q - k| = 1 / 2 → |q| < |(k : ℚ)|)) ∧
    (∀ n : Int64, rounded (.real x) = .ok n ↔ x.RoundsTo n.toInt) ∧
    (∀ e, rounded (.real x) = .error e ↔
      e = .invalidNumber x.text ∧ ¬ ∃ k, x.RoundsTo k ∧ -2 ^ 63 ≤ k ∧ k < 2 ^ 63) ∧
    (Quantity.real x).integer? = x.checkedWord? ∧
    (Quantity.real x).rounded? = x.roundedAway.checkedWord? ∧
    ∀ (l : Locale) (s : String),
      (∀ style ∈ roundingStyles, l.number style (.real x) = .ok s ↔
        ∃ n : Int64, x.RoundsTo n.toInt ∧ l.number style (.integer n) = .ok s) ∧
      (l.number .percent (.real x) = .ok s ↔
        ∃ p : Int64, (x.mul (.ofInt 100)).RoundsTo p.toInt ∧
          s = String.ofList (l.tag.percentAffixes.apply (p < 0)
            (l.data.symbols.chars (.ofInt (percentMagnitude p))) [])) := by
  -- the first six parts are there already; the rest follows from what an integer is rounded to
  refine ⟨fun _ => Quantity.integer?_real_eq_some_iff, ?_, fun _ => Binary64.roundsTo_iff_value?,
    fun _ => rounded_real_eq_ok_iff, ?_, Quantity.integer?_real x, Quantity.rounded?_real x,
    fun l s => ⟨?_, ?_⟩⟩
  · simp only [Quantity.integer?_real_eq_some_iff]
    exact exists_toInt_iff (P := fun k => x.value? = some (k : ℚ))
  · intro e
    rw [rounded_eq_error_iff, ← exists_toInt_iff]
    simp only [rounded_real_eq_ok_iff]
    rfl
  · intro style hstyle
    rw [l.number_eq_ok_iff hstyle]
    exact exists_congr fun n => and_congr_left' rounded_real_eq_ok_iff
  · rw [l.percent_eq_ok_iff]
    exact exists_congr fun p => and_congr_left' rounded_real_eq_ok_iff

/-- The first number above the range is an error and not the integer that the cast gives
    for it. The least number of the range is an integer. -/
theorem integers_at_ends_of_range :
    let top := Binary64.ofInt (2 ^ 63)
    let least := Binary64.ofInt (-2 ^ 63)
    top.saturated = Int64.maxValue ∧ (¬ ∃ n, (Quantity.real top).integer? = some n) ∧
      rounded (.real top) = .error (.invalidNumber top.text) ∧
      least.RoundsTo Int64.minValue.toInt ∧
      english.number .integer (.real least) = .ok "-9,223,372,036,854,775,808" := by
  intro top least
  -- both ends are powers of two, so they have no loss; only the least one is within 64 bits
  have htop : top.integer? = some (2 ^ 63) :=
    Binary64.integer?_ofInt (n := 2 ^ 63) ⟨1, 63, by decide, by decide, by decide⟩
  have hleast : least.integer? = some (-2 ^ 63) :=
    Binary64.integer?_ofInt (n := -2 ^ 63) ⟨1, 63, by decide, by decide, by decide⟩
  have hrounds : least.RoundsTo Int64.minValue.toInt :=
    Binary64.nearestInteger?_eq_some_iff.mp (Binary64.nearestInteger?_of_integer? hleast)
  obtain ⟨-, hinteger, -, -, herror, -⟩ := integers_of_reals_are_exact top
  obtain ⟨-, -, -, -, -, -, -, hstyles⟩ := integers_of_reals_are_exact least
  refine ⟨?_, ?_, ?_, hrounds, ?_⟩
  · rw [Binary64.saturated_of_integer? htop]
    decide
  · rw [hinteger]
    rintro ⟨k, hk, -, hhigh⟩
    rw [← Binary64.integer?_eq_some_iff_value?, htop] at hk
    exact absurd (Option.some.inj hk) (by omega)
  · refine (herror _).mpr ⟨rfl, ?_⟩
    rintro ⟨k, hk, -, hhigh⟩
    have hnearest := Binary64.nearestInteger?_eq_some_iff.mpr hk
    rw [Binary64.nearestInteger?_of_integer? htop] at hnearest
    exact absurd (Option.some.inj hnearest) (by omega)
  · exact ((hstyles english _).1 .integer (by decide)).mpr ⟨Int64.minValue, hrounds, by decide⟩

end Locale

end Phrasebook
