import Phrasebook.Proofs.Binary64.Integers
import Phrasebook.Proofs.Decimal.Reading

/-! # Shortest digits read back

    The displayed digits of a finite number lie in its interval, so reading them gives
    the number again, and the text of any number reads back as the number. The digits
    of an integer below `2^53` are those of the integer itself: no other integer lies
    in its interval.
-/

namespace Phrasebook

open Text

namespace Binary64

/-! ### Multiples of a power of ten -/

/-- A power of ten as a ratio: only one of the two numbers is not one. -/
theorem powerOfTen_eq (e : Int) : powerOfTen e = (10 ^ e.toNat, 10 ^ (-e).toNat) := by
  unfold powerOfTen
  by_cases he : 0 ≤ e
  · have hzero : (-e).toNat = 0 := by omega
    rw [if_pos he, hzero, Nat.pow_zero]
  · have hzero : e.toNat = 0 := by omega
    rw [if_neg he, hzero, Nat.pow_zero]

theorem powerOfTen_neg (k : Nat) : powerOfTen (-k) = (1, 10 ^ k) := by
  have hzero : (-(k : Int)).toNat = 0 := by omega
  have hk : (-(-(k : Int))).toNat = k := by omega
  rw [powerOfTen_eq, hzero, hk, Nat.pow_zero]

/-- A tie goes to one of the two neighbours. -/
theorem Tie.choose_cases (tie : Tie) (c : Nat) : tie.choose c = c ∨ tie.choose c = c + 1 := by
  cases tie with
  | upward => exact Or.inr rfl
  | toEven =>
    show c + c % 2 = c ∨ c + c % 2 = c + 1
    omega

theorem Span.holds_of_multiple? {i : Span} {tie : Tie} {e : Int} {c : Nat}
    (h : i.multiple? tie e = some c) :
    i.holds (4 * (c * 10 ^ e.toNat * one)) (10 ^ (-e).toNat) = true := by
  have hproduct : 4 * (c * 10 ^ e.toNat * one) = c * (10 ^ e.toNat * (4 * one)) := by
    rw [Nat.mul_left_comm _ 4, Nat.mul_left_comm c 4, Nat.mul_assoc c]
  rw [hproduct]
  unfold multiple? at h
  simp only [powerOfTen_eq] at h
  generalize 10 ^ e.toNat * (4 * one) = step at h ⊢
  generalize (10 : Nat) ^ (-e).toNat = q at h ⊢
  generalize i.center * q / step = below at h
  split at h
  · next hboth =>
    obtain ⟨hlower, hupper⟩ := Bool.and_eq_true_iff.mp hboth
    -- whichever of the two is taken, both are in the interval
    have hc : c = below ∨ c = below + 1 := by
      obtain rfl := Option.some.inj h
      split
      · exact Or.inl rfl
      · split
        · exact Or.inr rfl
        · exact tie.choose_cases below
    rcases hc with rfl | rfl
    · exact hlower
    · exact hupper
  · split at h
    · next hlower =>
      obtain rfl := Option.some.inj h
      exact hlower
    · split at h
      · next hupper =>
        obtain rfl := Option.some.inj h
        exact hupper
      · cases h

/-- There is a multiple in the interval if the greatest one up to its centre is. -/
theorem Span.exists_multiple? {i : Span} (tie : Tie) {e : Int}
    (h : i.holds (i.center * 10 ^ (-e).toNat / (10 ^ e.toNat * (4 * one)) *
      (10 ^ e.toNat * (4 * one))) (10 ^ (-e).toNat) = true) :
    ∃ c, i.multiple? tie e = some c := by
  unfold multiple?
  simp only [powerOfTen_eq, h, Bool.true_and, if_true]
  split
  · exact ⟨_, rfl⟩
  · exact ⟨_, rfl⟩

/-! ### The exponents that are tried -/

theorem mem_exponents {e : Int} : e ∈ exponents ↔ -324 ≤ e ∧ e ≤ 308 := by
  unfold exponents
  rw [List.mem_map]
  constructor
  · rintro ⟨i, hi, rfl⟩
    have hlt := List.mem_range.mp hi
    omega
  · intro h
    exact ⟨(308 - e).toNat, List.mem_range.mpr (by omega), by omega⟩

theorem exponents_descending : exponents.Pairwise (· > ·) := by
  unfold exponents
  rw [List.pairwise_map]
  refine List.pairwise_lt_range.imp ?_
  intro i j hij
  show 308 - (i : Int) > 308 - (j : Int)
  omega

/-- The last power of ten is less than a quarter of a unit. -/
theorem finest_step : 10 ^ (-324 : Int).toNat * (4 * one) < 10 ^ (-(-324 : Int)).toNat := by
  decide +kernel

section
variable {m s : Nat}

/-- The ends of an interval are apart from its centre. -/
theorem span_low_lt_center (hm : m ≠ 0) : (span m s).low < (span m s).center := by
  have hgap := Nat.two_pow_pos s
  have hcenter : 2 ^ s ≤ m * 2 ^ s := Nat.le_mul_of_pos_left _ (Nat.pos_of_ne_zero hm)
  have hreach := le_reachBelow m s
  show 4 * (m * 2 ^ s) - reachBelow m s < 4 * (m * 2 ^ s)
  omega

theorem center_lt_span_high (m s : Nat) : (span m s).center < (span m s).high := by
  have hgap := Nat.two_pow_pos s
  show 4 * (m * 2 ^ s) < 4 * (m * 2 ^ s) + 2 * 2 ^ s
  omega

/-- The finest power of ten has a multiple in every interval. -/
theorem exists_finest_multiple? (tie : Tie) (hm : m ≠ 0) :
    ∃ c, (span m s).multiple? tie (-324) = some c := by
  have hfinest := finest_step
  have hstep : 0 < 10 ^ (-324 : Int).toNat * (4 * one) :=
    Nat.mul_pos (Nat.pow_pos (by decide)) (Nat.mul_pos (by decide) one_pos)
  refine Span.exists_multiple? tie ?_
  generalize 10 ^ (-324 : Int).toNat * (4 * one) = step at hfinest hstep ⊢
  generalize (10 : Nat) ^ (-(-324 : Int)).toNat = q at hfinest ⊢
  have hlow := span_low_lt_center (s := s) hm
  have hhigh := center_lt_span_high m s
  generalize hi : span m s = i at hlow hhigh ⊢
  have hq : 0 < q := by omega
  -- the multiple is less than a step below the centre, and the lower end more than a step
  have hbelow : (i.low + 1) * q ≤ i.center * q := Nat.mul_le_mul_right q hlow
  have habove : i.center * q < i.high * q := Nat.mul_lt_mul_of_pos_right hhigh hq
  have hdiv : step * (i.center * q / step) + i.center * q % step = i.center * q :=
    Nat.div_add_mod _ _
  rw [Nat.add_mul, Nat.one_mul] at hbelow
  rw [Nat.mul_comm step] at hdiv
  have hmod : i.center * q % step < step := Nat.mod_lt _ hstep
  unfold Span.holds
  split
  · rw [Bool.and_eq_true, decide_eq_true_eq, decide_eq_true_eq]
    omega
  · rw [Bool.and_eq_true, decide_eq_true_eq, decide_eq_true_eq]
    omega

/-! ### The digits of a finite number -/

/-- The search ends with the greatest power of ten that has a multiple in the interval. -/
theorem shortest_eq (tie : Tie) (hm : m ≠ 0) :
    ∃ c e, shortest tie m s = (c, e) ∧ e ∈ exponents ∧ (span m s).multiple? tie e = some c ∧
      ∀ e' ∈ exponents, e < e' → (span m s).multiple? tie e' = none := by
  -- the search as a function, so that what is known of `findSome?` applies to it
  let found (e : Int) : Option (Nat × Int) := ((span m s).multiple? tie e).map fun c => (c, e)
  have hsome : (exponents.findSome? found).isSome = true := by
    obtain ⟨c, hc⟩ := exists_finest_multiple? (s := s) tie hm
    refine List.findSome?_isSome_iff.mpr ⟨-324, mem_exponents.mpr (by omega), ?_⟩
    show (((span m s).multiple? tie (-324)).map fun c => (c, (-324 : Int))).isSome = true
    rw [hc]
    rfl
  obtain ⟨⟨c, e⟩, hfound⟩ := Option.isSome_iff_exists.mp hsome
  obtain ⟨front, a, back, hsplit, ha, hnone⟩ := List.findSome?_eq_some_iff.mp hfound
  obtain ⟨c', hc, hpair⟩ := Option.map_eq_some_iff.mp ha
  obtain ⟨rfl, rfl⟩ := Prod.mk.inj hpair
  -- what stands in front of the found exponent was tried in vain and is greater than it
  have hmem : a ∈ exponents := by
    rw [hsplit]
    exact List.mem_append_right _ List.mem_cons_self
  have hdescending := exponents_descending
  rw [hsplit] at hdescending
  refine ⟨c', a, ?_, hmem, hc, ?_⟩
  · show (exponents.findSome? found).getD (0, 0) = _
    rw [hfound]
    rfl
  · intro e' he' hlt
    rw [hsplit] at he'
    -- a greater exponent was tried before
    rcases List.mem_append.mp he' with hfront | hback
    · exact Option.map_eq_none_iff.mp (hnone e' hfront)
    · obtain ⟨-, hrest, -⟩ := List.pairwise_append.mp hdescending
      rcases List.mem_cons.mp hback with rfl | hbehind
      · omega
      · have hgreater := (List.pairwise_cons.mp hrest).1 e' hbehind
        omega

/-- A number that is not zero is displayed with the digits that the search ends with. -/
theorem shortest?_finite (tie : Tie) (negative : Bool) (hcanonical : Canonical m s) (hm : m ≠ 0) :
    (finite negative m s hcanonical).shortest? tie =
      some ⟨negative, (shortest tie m s).1 * 10 ^ (shortest tie m s).2.toNat,
        (-(shortest tie m s).2).toNat⟩ := by
  unfold shortest?
  split
  · next h =>
    cases h
    exact absurd rfl hm
  · next h =>
    cases h
    generalize shortest tie m s = found
    rfl
  · next _ hne => exact absurd rfl (hne negative m s hcanonical)

theorem exists_shortest? (tie : Tie) {x : Binary64} (h : x.isFinite = true) :
    ∃ d, x.shortest? tie = some d := by
  cases x with
  | nan => cases h
  | infinity negative => cases h
  | finite negative m s hcanonical =>
    by_cases hm : m = 0
    · subst hm
      exact ⟨_, rfl⟩
    · exact ⟨_, shortest?_finite tie negative hcanonical hm⟩

/-- **The displayed digits lie in the interval**: the decimal that is displayed is one of
    the numbers that round to the given one. -/
theorem shortest?_eq (tie : Tie) (negative : Bool) (hcanonical : Canonical m s) (hm : m ≠ 0) :
    ∃ d, (finite negative m s hcanonical).shortest? tie = some d ∧ d.negative = negative ∧
      d.coefficient ≠ 0 ∧ d.scale ≤ 324 ∧
      (span m s).holds (4 * (d.coefficient * one)) (10 ^ d.scale) = true := by
  obtain ⟨c, e, hshortest, he, hmultiple, -⟩ := shortest_eq (s := s) tie hm
  obtain ⟨hlow, -⟩ := mem_exponents.mp he
  have hholds := Span.holds_of_multiple? hmultiple
  refine ⟨⟨negative, c * 10 ^ e.toNat, (-e).toNat⟩, ?_, rfl, ?_, ?_, hholds⟩
  · rw [shortest?_finite tie negative hcanonical hm, hshortest]
  · intro hzero
    replace hzero : c * 10 ^ e.toNat = 0 := hzero
    -- the interval of a number that is not zero does not reach down to zero
    obtain ⟨hbelow, -, -⟩ := span_holds_iff.mp hholds
    rw [hzero, Nat.zero_mul, Nat.mul_zero, Nat.zero_add] at hbelow
    have hden : 0 < (10 : Nat) ^ (-e).toNat := Nat.pow_pos (by decide)
    have hreach : 4 * (m * 2 ^ s) ≤ reachBelow m s := by
      rw [← Nat.mul_assoc 4] at hbelow
      exact Nat.le_of_mul_le_mul_right hbelow hden
    have hcenter : 2 ^ s ≤ m * 2 ^ s := Nat.le_mul_of_pos_left _ (Nat.pos_of_ne_zero hm)
    have hle := reachBelow_le m s
    have hgap := Nat.two_pow_pos s
    omega
  · show (-e).toNat ≤ 324
    omega

/-! ### Reading the digits -/

/-- A bound on a number in powers of ten moves along with the number. -/
theorem mul_ten_pow_lt {a n : Nat} (h : a < 10 ^ n) (k : Nat) : a * 10 ^ k < 10 ^ (n + k) := by
  rw [Nat.pow_add]
  exact Nat.mul_lt_mul_of_pos_right h (Nat.pow_pos (by decide))

theorem finite_lt_ten_pow (k : Nat) : (2 ^ 53 * 2 ^ 971 * 10 ^ k : Nat) < 10 ^ (309 + k) :=
  mul_ten_pow_lt (by decide +kernel) k

/-- A decimal in the interval of a number has at most 309 digits before its point. -/
theorem length_digits_of_holds {c k : Nat} (hcanonical : Canonical m s)
    (h : (span m s).holds (4 * (c * one)) (10 ^ k) = true) : (digits c).length ≤ 309 + k := by
  obtain ⟨hm, hs, -⟩ := hcanonical
  obtain ⟨-, hhigh, -⟩ := span_holds_iff.mp h
  have hscale : 2 ^ s ≤ 2 ^ 971 * one := two_pow_le_units hs
  -- the upper end is not above the least power of two that is not finite
  have hupper : c * one ≤ 2 ^ 53 * 2 ^ 971 * 10 ^ k * one := by
    calc c * one ≤ (m + 1) * (2 ^ s * 10 ^ k) := by
          rw [Nat.add_mul, Nat.one_mul, ← Nat.mul_assoc]
          omega
      _ ≤ 2 ^ 53 * (2 ^ 971 * one * 10 ^ k) :=
          Nat.mul_le_mul hm (Nat.mul_le_mul_right _ hscale)
      _ = 2 ^ 53 * 2 ^ 971 * 10 ^ k * one := by
          rw [Nat.mul_right_comm (2 ^ 971), ← Nat.mul_assoc, ← Nat.mul_assoc]
  have hle : c ≤ 2 ^ 53 * 2 ^ 971 * 10 ^ k := Nat.le_of_mul_le_mul_right hupper one_pos
  have hlt : c < 10 ^ (309 + k) := Nat.lt_of_le_of_lt hle (finite_lt_ten_pow k)
  exact (Nat.length_toDigits_le_iff (by decide) (by omega)).mpr hlt

/-- A decimal in the interval of a number is read as that number. -/
theorem ofNumeral_of_holds {negative : Bool} {c k : Nat} (hcanonical : Canonical m s) (hc : c ≠ 0)
    (hk : k ≤ 324) (h : (span m s).holds (4 * (c * one)) (10 ^ k) = true) :
    ofNumeral ofRatio (.decimal negative c (-k)) = .finite negative m s hcanonical := by
  have hlength := length_digits_of_holds hcanonical h
  have hpositive : 0 < (digits c).length := List.length_pos_iff.mpr (digits_ne_nil c)
  have hrange : ¬ (c = 0 ∨ ((digits c).length : Int) + -(k : Int) < -400) := by omega
  have htop : ¬ 400 < ((digits c).length : Int) + -(k : Int) := by omega
  have hunits : ofRatio negative c (10 ^ k) = .finite negative m s hcanonical :=
    ofUnits_of_holds negative hcanonical (Nat.pow_pos (by decide)) h
  simp only [ofNumeral, if_neg hrange, if_neg htop, powerOfTen_neg, Nat.mul_one, hunits]

/-- **The text of a number reads back as the number**, a zero with its sign, and infinities
    and not-a-number from their words. -/
theorem ofChars?_text (x : Binary64) : ofChars? x.text.toList = some x := by
  cases x with
  | nan => decide +kernel
  | infinity negative => cases negative <;> decide +kernel
  | finite negative m s hcanonical =>
    by_cases hm : m = 0
    · obtain ⟨-, -, hfull⟩ := id hcanonical
      have hs : s = 0 := hfull.resolve_left (by omega)
      subst hm hs
      show ofChars? (zero negative).text.toList = some (zero negative)
      cases negative <;> decide +kernel
    · obtain ⟨d, hd, rfl, hc, hk, hholds⟩ := shortest?_eq .upward negative hcanonical hm
      have htext : (finite d.negative m s hcanonical).text = d.text := by
        show (((finite d.negative m s hcanonical).shortest? .upward).map Decimal.text).getD "" = _
        rw [hd]
        rfl
      rw [htext, Decimal.text, String.toList_ofList, ofChars?, d.ofChars?_chars, Option.map_some,
        ofNumeral_of_holds hcanonical hc hk hholds]

end

/-! ### The digits of integers -/

/-- The text of an integer of 64 bits is read as the number nearest to it. -/
theorem ofChars?_integerChars (n : Int64) :
    ofChars? (integerChars n.toInt) = some (ofInt n.toInt) := by
  rw [← Decimal.chars_ofInt, ofChars?, Decimal.ofChars?_chars, Option.map_some]
  show some (ofNumeral ofRatio (.decimal (n.toInt < 0) n.toInt.natAbs (-(0 : Nat)))) = _
  by_cases hzero : n.toInt = 0
  · rw [hzero]
    -- twenty digits are far from the two ends at which a numeral is cut off
    decide +kernel
  · have hsmall : n.toInt.natAbs < 10 ^ 20 := by
      have hlow := n.le_toInt
      have hhigh := n.toInt_lt
      omega
    have hlength : (digits n.toInt.natAbs).length ≤ 20 :=
      (Nat.length_toDigits_le_iff (by decide) (by decide)).mpr hsmall
    have hrange : ¬ (n.toInt.natAbs = 0 ∨
        ((digits n.toInt.natAbs).length : Int) + -(0 : Nat) < -400) := by omega
    have htop : ¬ 400 < ((digits n.toInt.natAbs).length : Int) + -(0 : Nat) := by omega
    simp only [ofNumeral, if_neg hrange, if_neg htop, powerOfTen_neg, Nat.mul_one, Nat.pow_zero]
    rfl

/-- Counts that are less than a unit apart are the same. -/
theorem eq_of_near {a b u : Nat} (hu : 0 < u) (hle : 4 * (a * u) ≤ 4 * (b * u) + 2 * u)
    (hge : 4 * (b * u) ≤ 4 * (a * u) + 2 * u) : a = b := by
  have hstep : ∀ {a b : Nat}, a < b → a * u + u ≤ b * u := fun {a b} hlt => by
    have hmul := Nat.mul_le_mul_right u (Nat.succ_le_of_lt hlt)
    rwa [Nat.succ_mul] at hmul
  rcases Nat.lt_trichotomy a b with hlt | heq | hgt
  · have := hstep hlt
    omega
  · exact heq
  · have := hstep hgt
    omega

/-- An integer below `2^53` has no scale above the point. -/
theorem two_pow_le_one {m s k : Nat} (hcanonical : Canonical m s) (hunits : m * 2 ^ s = k * one)
    (hk : k < 2 ^ 53) : 2 ^ s ≤ one := by
  obtain ⟨-, -, hfull⟩ := hcanonical
  have hs : s ≤ 0 + 1074 := by
    refine Nat.le_of_not_lt fun hlt => ?_
    have hm : 2 ^ 52 ≤ m := hfull.resolve_right (by omega)
    -- a full mantissa on such a scale has at least `2^53` ones
    have hlarge : 2 ^ 52 * (2 ^ 1 * one) ≤ m * 2 ^ s := Nat.mul_le_mul hm (units_le_two_pow hlt)
    have hsmall : k * one < 2 ^ 53 * one := Nat.mul_lt_mul_of_pos_right hk one_pos
    omega
  calc 2 ^ s ≤ 2 ^ 0 * one := two_pow_le_units hs
    _ = one := by rw [Nat.pow_zero, Nat.one_mul]

/-- An integer is a multiple of one, which is in the interval of its number. -/
theorem exists_multiple?_of_integer {m s k : Nat} (tie : Tie) (hunits : m * 2 ^ s = k * one) :
    ∃ c, (span m s).multiple? tie 0 = some c := by
  have hfour : 0 < 4 * one := Nat.mul_pos (by decide) one_pos
  have hcenter : (span m s).center = k * (4 * one) := by
    show 4 * (m * 2 ^ s) = _
    rw [hunits, Nat.mul_left_comm]
  have hstep : 10 ^ (0 : Int).toNat * (4 * one) = 4 * one := by
    rw [Int.toNat_zero, Nat.pow_zero, Nat.one_mul]
  have hden : (10 : Nat) ^ (-(0 : Int)).toNat = 1 := rfl
  -- the centre is itself a multiple of one, so it is the greatest one up to the centre
  refine Span.exists_multiple? tie ?_
  rw [hstep, hden, Nat.mul_one, hcenter, Nat.mul_div_cancel _ hfour, Nat.mul_left_comm]
  exact span_holds_center Nat.zero_lt_one (by rw [hunits, Nat.mul_one])

/-- So no power of ten below one is tried for an integer. -/
theorem shortest_of_integer {m s k : Nat} (tie : Tie) (hm : m ≠ 0) (hunits : m * 2 ^ s = k * one) :
    ∃ c e, shortest tie m s = (c, e) ∧ (-e).toNat = 0 ∧ (span m s).multiple? tie e = some c := by
  obtain ⟨c, e, hshortest, -, hmultiple, hgreater⟩ := shortest_eq (s := s) tie hm
  refine ⟨c, e, hshortest, ?_, hmultiple⟩
  -- a negative exponent would mean that one itself was tried in vain
  have he : 0 ≤ e := by
    refine Int.not_lt.mp fun hlt => ?_
    have hnone := hgreater 0 (mem_exponents.mpr (by omega)) hlt
    obtain ⟨c', hc'⟩ := exists_multiple?_of_integer tie hunits
    rw [hnone] at hc'
    cases hc'
  omega

/-- An integer is displayed without a fraction. -/
theorem scale_of_integer? {x : Binary64} {n : Int} (h : x.integer? = some n) {d : Decimal}
    (hd : x.toDecimal? = some d) : d.scale = 0 := by
  cases x with
  | nan => cases hd
  | infinity negative => cases hd
  | finite negative m s hcanonical =>
    by_cases hm : m = 0
    · subst hm
      obtain rfl := Option.some.inj hd
      rfl
    · obtain ⟨c, e, hshortest, hscale, -⟩ := shortest_of_integer .upward hm (units_of_integer? h)
      rw [toDecimal?, shortest?_finite .upward negative hcanonical hm, hshortest] at hd
      obtain rfl := Option.some.inj hd
      exact hscale

/-- **The digits of an integer below `2^53` are its own.** -/
theorem toDecimal?_ofInt {n : Int} (h : n.natAbs < 2 ^ 53) :
    (ofInt n).toDecimal? = some (.ofInt n) := by
  obtain ⟨m, s, hcanonical, hn, hunits⟩ := ofInt_eq (representable_of_lt h)
  by_cases hzero : n = 0
  · rw [hzero]
    decide +kernel
  have hm : m ≠ 0 := by
    rintro rfl
    rw [Nat.zero_mul] at hunits
    have hpositive : 0 < n.natAbs * one := Nat.mul_pos (Int.natAbs_pos.mpr hzero) one_pos
    omega
  obtain ⟨c, e, hshortest, hscale, hmultiple⟩ := shortest_of_integer .upward hm hunits
  have hholds := Span.holds_of_multiple? hmultiple
  rw [hscale, Nat.pow_zero] at hholds
  obtain ⟨hbelow, habove, -⟩ := span_holds_iff.mp hholds
  -- two counts of ones within one interval differ by less than one
  have hgap := two_pow_le_one hcanonical hunits h
  have hreach := reachBelow_le m s
  simp only [Nat.mul_one, hunits] at hbelow habove
  have hc : n.natAbs = c * 10 ^ e.toNat := eq_of_near one_pos (by omega) (by omega)
  rw [hn, toDecimal?, shortest?_finite .upward _ hcanonical hm, hshortest]
  simp only [hscale, ← hc]
  rfl

end Binary64

end Phrasebook
