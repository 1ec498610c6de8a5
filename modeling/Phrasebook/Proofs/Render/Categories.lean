import Phrasebook.Proofs.Binary64.Overflow
import Phrasebook.Proofs.Locale.SameNumber
import Phrasebook.Proofs.Render.Outcome
import Phrasebook.Proofs.Traversal

/-! # Categories of shown numbers

    A plural chooses by the category of its number less the offset, and each `#` in its
    branches shows the digits of that. The category goes by the shown digits wherever plural
    rules see the number itself in them, if it is an integer: so it does for every integer
    of up to 18 digits, for every binary number with a fraction, and below `2^53`. A larger
    binary number can be an integer of 64 bits whose shortest digits are padded with zeros.
    Its category is then that of the integer, not of the digits.
-/

namespace Phrasebook

namespace Quantity

/-- An integer, or a finite binary number. -/
def IsFinite : Quantity → Prop
  | integer _ => True
  | real x => x.isFinite = true

instance : DecidablePred IsFinite
  | integer _ => .isTrue trivial
  | real x => inferInstanceAs (Decidable (x.isFinite = true))

theorem isFinite_minus {q : Quantity} (h : q.IsFinite) (offset : Int64) :
    (q.minus offset).IsFinite := by
  unfold minus
  by_cases hzero : offset = 0
  · rw [if_pos hzero]
    exact h
  · rw [if_neg hzero]
    -- integers stop at the ends of their range; real numbers stay finite less any such offset
    cases q with
    | integer n => trivial
    | real x =>
      have hlow := offset.le_toInt
      have hhigh := offset.toInt_lt
      apply Binary64.isFinite_sub_ofInt h
      omega

theorem exists_decimal? {q : Quantity} (h : q.IsFinite) : ∃ d, q.decimal? = some d := by
  cases q with
  | integer n => exact ⟨_, rfl⟩
  | real x => exact Binary64.exists_shortest? .upward h

/-- What counts as an integer shows no places. -/
theorem scale_of_integer? {q : Quantity} {n : Int64} {d : Decimal} (h : q.integer? = some n)
    (hd : q.decimal? = some d) : d.scale = 0 := by
  cases q with
  | integer k =>
    obtain rfl := Option.some.inj hd
    rfl
  | real x =>
    obtain ⟨i, hi, -⟩ := Option.bind_eq_some_iff.mp h
    exact Binary64.scale_of_integer? hi hd

theorem whole_of_integer {n : Int64} {d : Decimal} (h : (integer n).decimal? = some d) :
    d.whole = n.toInt.natAbs := by
  obtain rfl := Option.some.inj h
  exact Nat.div_one _

/-- Below `2^53` a binary number that is an integer shows the digits of it. -/
theorem whole_of_lt {q : Quantity} {n : Int64} {d : Decimal} (h : q.integer? = some n)
    (hd : q.decimal? = some d) (hn : n.toInt.natAbs < 2 ^ 53) : d.whole = n.toInt.natAbs := by
  cases q with
  | integer k =>
    obtain rfl := Option.some.inj h
    exact whole_of_integer hd
  | real x =>
    obtain ⟨i, hi, hword⟩ := Option.bind_eq_some_iff.mp h
    obtain rfl := Text.word?_eq_some_iff.mp hword
    have hdigits : x.toDecimal? = some d := hd
    have hunits := Binary64.integer?_eq_some_iff.mp hi
    have hexact := Binary64.signedUnits?_ofInt (Binary64.representable_of_lt hn)
    -- the number is that of the integer, or a zero of the other sign
    rcases Binary64.eq_or_isZero_of_signedUnits hunits hexact with hx | ⟨⟨negative, hx⟩, hzero⟩
    · rw [hx, Binary64.toDecimal?_ofInt hn] at hdigits
      obtain rfl := Option.some.inj hdigits
      exact Nat.div_one _
    · rw [hx] at hdigits
      obtain rfl := Option.some.inj hdigits
      rw [Binary64.isZero_ofInt.mp hzero]
      exact Nat.div_one 0

end Quantity

/-! ### What plural rules see -/

namespace LocaleData

variable {data : LocaleData} {q : Quantity} {n : Int64}

/-- If a quantity counts as an integer, then plural rules see that integer in the digits that
    the quantity shows. -/
def SeesItself (data : LocaleData) (q : Quantity) : Prop :=
  ∀ n d, q.integer? = some n → q.decimal? = some d → data.operands d = .ofInt n.toInt

/-- A number that is no integer of 64 bits can only be seen in its digits. -/
theorem seesItself_of_integer?_eq_none (h : q.integer? = none) : data.SeesItself q := by
  intro n d hn
  rw [h] at hn
  cases hn

/-- An integer of up to 18 digits is seen where these are what is shown. -/
theorem seesItself_of_whole {d : Decimal} (h : q.integer? = some n) (hd : q.decimal? = some d)
    (hwhole : d.whole = n.toInt.natAbs) (hfew : n.toInt.natAbs < 10 ^ 18) :
    data.SeesItself q := by
  intro k e hk he
  obtain rfl := Option.some.inj (h.symm.trans hk)
  obtain rfl := Option.some.inj (hd.symm.trans he)
  rw [data.operands_of_integer d (Quantity.scale_of_integer? h hd) (hwhole ▸ hfew), hwhole]
  rfl

end LocaleData

namespace Locale

theorem category_of_integer? (l : Locale) (kind : PluralKind) {q : Quantity} {n : Int64}
    (h : q.integer? = some n) :
    l.category kind q = .ok (categoryBy (l.data.rules kind) (.ofInt n.toInt)) := by
  unfold category Operands.ofQuantity?
  rw [h]

/-- Where rules see the number in its digits, the category is that of the digits. -/
theorem category_of_seesItself (l : Locale) (kind : PluralKind) {q : Quantity}
    (h : l.data.SeesItself q) {d : Decimal} (hd : q.decimal? = some d) :
    l.category kind q = .ok (categoryBy (l.data.rules kind) (l.data.operands d)) := by
  unfold category Operands.ofQuantity?
  cases hn : q.integer? with
  | none => simp only [hd, Option.map_some]
  | some n => simp only [h n d hn hd]

/-- **Categories of shown numbers.** A finite number less an offset has digits, which are
    what each `#` of the plural shows. Its category is the one that the rules of the locale
    give to these digits, unless it counts as an integer that they do not see in them. They
    see an integer of up to 18 digits if these are what is shown, as they are for what is
    given as an integer and below `2^53`. In any case the category of what counts as an
    integer is that of the integer. -/
theorem category_of_shown_number (l : Locale) (kind : PluralKind) {q : Quantity}
    (h : q.IsFinite) (offset : Int64) :
    ∃ d, (q.minus offset).decimal? = some d ∧
      (∀ (args : Arguments) (id : String) (v : Value),
        args id = some v → v.quantity? = some q →
          ∃ pound, Template.compileElement (some ⟨id, offset⟩) .pound = .ok pound ∧
            pound.render ⟨args, l.localizer⟩ = pure (.text (l.decimalText d))) ∧
      (l.data.SeesItself (q.minus offset) → l.category kind (q.minus offset) =
        .ok (categoryBy (l.data.rules kind) (l.data.operands d))) ∧
      ((q.minus offset).integer? = none → l.data.SeesItself (q.minus offset)) ∧
      ∀ n, (q.minus offset).integer? = some n →
        (d.whole = n.toInt.natAbs → n.toInt.natAbs < 10 ^ 18 →
          l.data.SeesItself (q.minus offset)) ∧
        (q.minus offset = .integer n ∨ n.toInt.natAbs < 2 ^ 53 → d.whole = n.toInt.natAbs) ∧
          l.category kind (q.minus offset) =
            .ok (categoryBy (l.data.rules kind) (.ofInt n.toInt)) := by
  obtain ⟨d, hd⟩ := Quantity.exists_decimal? (Quantity.isFinite_minus h offset)
  refine ⟨d, hd, ?_, ?_, LocaleData.seesItself_of_integer?_eq_none, ?_⟩
  · intro args id v hvalue hquantity
    refine ⟨.number id offset .plain, by rw [Template.compileElement], ?_⟩
    have hplain : l.number .plain (q.minus offset) = .ok (l.decimalText d) := by
      show l.plainText (q.minus offset) = _
      unfold plainText
      rw [hd]
    exact Template.render_number_of_ok hvalue hquantity hplain
  · intro hseen
    exact l.category_of_seesItself kind hseen hd
  · intro n hn
    refine ⟨LocaleData.seesItself_of_whole hn hd, ?_, l.category_of_integer? kind hn⟩
    -- either the digits are those of an integer as it stands, or there are at most 53 bits
    rintro (hinteger | hsmall)
    · rw [hinteger] at hd
      exact Quantity.whole_of_integer hd
    · exact Quantity.whole_of_lt hn hd hsmall

/-- Two and a half less one: a French plural takes it as one, and shows a comma. -/
theorem category_of_one_and_a_half :
    let french : Locale := .ofLanguageTag ⟨"fr", none, none, [], [], []⟩
    let q : Quantity := .real (.ofRatio false 5 2)
    let args : Arguments := fun _ => some (.text "2.5")
    q.IsFinite ∧ (Value.text "2.5").quantity? = some q ∧ (q.minus 1).integer? = none ∧
      french.category .cardinal (q.minus 1) = .ok .one ∧
      ∃ pound, Template.compileElement (some ⟨"n", 1⟩) .pound = .ok pound ∧
        pound.render ⟨args, french.localizer⟩ = pure (.text "1,5") := by
  intro french q args
  have hfinite : q.IsFinite := by decide +kernel
  have hquantity : (Value.text "2.5").quantity? = some q := by decide +kernel
  have hfraction : (q.minus 1).integer? = none := by decide +kernel
  obtain ⟨d, hd, hpound, hcategory, hitself, -⟩ :=
    french.category_of_shown_number .cardinal hfinite 1
  have hdigits : (q.minus 1).decimal? = some ⟨false, 15, 1⟩ := by decide +kernel
  obtain rfl := Option.some.inj (hdigits.symm.trans hd)
  have hrules : categoryBy (french.data.rules .cardinal) (french.data.operands ⟨false, 15, 1⟩) =
      .one := by decide
  have htext : french.decimalText ⟨false, 15, 1⟩ = "1,5" := by decide +kernel
  have hone := hcategory (hitself hfraction)
  rw [hrules] at hone
  have hshown := hpound args "n" (.text "2.5") rfl hquantity
  rw [htext] at hshown
  exact ⟨hfinite, hquantity, hfraction, hone, hshown⟩

/-- **From `2^53` on a plural can choose by other digits than it shows**: `2^61` ends with
    a two and counts as such in English ranks, but it is shown with a zero at the end. -/
theorem category_of_padded_number :
    let q : Quantity := .real (.ofInt (2 ^ 61))
    q.IsFinite ∧ english.category .ordinal (q.minus 0) = .ok .two ∧
      english.number .plain (q.minus 0) = .ok "2,305,843,009,213,694,000" ∧
      (q.minus 0).decimal?.map
          (fun d => categoryBy (english.data.rules .ordinal) (english.data.operands d)) =
        some .other := by
  intro q
  refine ⟨?_, ?_, ?_, ?_⟩
  · decide +kernel
  · decide +kernel
  · decide +kernel
  · decide +kernel

/-- All digits of `10^19`, which is no integer of 64 bits, are seen: it is `many` in French. -/
example :
    let data := LocaleData.ofTag ⟨"fr", none, none, [], [], []⟩
    categoryBy (data.rules .cardinal) (data.operands (.ofInt (10 ^ 19))) = .many := by
  decide

end Locale

end Phrasebook
