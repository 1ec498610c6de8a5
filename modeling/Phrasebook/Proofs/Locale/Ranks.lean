import Phrasebook.Proofs.Locale.Rounded
import Phrasebook.Proofs.Traversal

/-! # English ranks

    The rank of an integer is the integer with a suffix. Its plural category decides the
    suffix, and the rules for the category go by the last two digits of the magnitude,
    which the least integer of 64 bits has like any other.
-/

namespace Phrasebook

open PluralTerm

/-- The suffix of an English rank goes by the last digit, but not for eleven, twelve and
    thirteen. -/
def rankSuffix (n : Nat) : String :=
  if n % 10 = 1 ∧ n % 100 ≠ 11 then "st"
  else if n % 10 = 2 ∧ n % 100 ≠ 12 then "nd"
  else if n % 10 = 3 ∧ n % 100 ≠ 13 then "rd"
  else "th"

/-! ### Relations with a single number -/

namespace PluralTerm

theorem value?_mod (m : Nat) (k : Int) : (n % m).value? (.ofInt k) = some (k.natAbs % m) := rfl

variable {x : PluralTerm} {o : Operands} {value : Nat}

theorem holds_isIn_single (h : x.value? o = some value) (k : Nat) :
    (x.isIn [(k, k)]).holds o = decide (value = k) := by
  unfold PluralRelation.holds isIn
  rw [Bool.eq_iff_iff]
  simp only [h, List.any_cons, List.any_nil, Bool.or_false, Bool.bne_false, Bool.and_eq_true,
    decide_eq_true_eq]
  omega

theorem holds_notIn_single (h : x.value? o = some value) (k : Nat) :
    (x.notIn [(k, k)]).holds o = decide (value ≠ k) := by
  have hinverse : (x.notIn [(k, k)]).holds o = !(x.isIn [(k, k)]).holds o := by
    unfold PluralRelation.holds notIn isIn
    simp
  rw [hinverse, holds_isIn_single h, decide_not]

end PluralTerm

/-! ### The rules of English -/

/-- A rule for the numbers with a last digit, but not with the last two digits. -/
def PluralRule.byLastDigits (c : Category) (last lastTwo : Nat) : PluralRule :=
  ⟨c, [[(n % 10).isIn [(last, last)], (n % 100).notIn [(lastTwo, lastTwo)]]]⟩

def englishRanks : List PluralRule :=
  [.byLastDigits .one 1 11, .byLastDigits .two 2 12, .byLastDigits .few 3 13]

/-- A rule by last digits looks at the magnitude of an integer. -/
theorem PluralRule.applies_byLastDigits (c : Category) (last lastTwo : Nat) (k : Int) :
    (byLastDigits c last lastTwo).applies (.ofInt k) =
      decide (k.natAbs % 10 = last ∧ k.natAbs % 100 ≠ lastTwo) := by
  have hlast := holds_isIn_single (value?_mod 10 k) last
  have hlastTwo := holds_notIn_single (value?_mod 100 k) lastTwo
  simp only [applies, byLastDigits, List.any_cons, List.any_nil, List.all_cons, List.all_nil,
    hlast, hlastTwo, Bool.and_true, Bool.or_false, Bool.decide_and]

/-- The suffix for the category of an integer is the suffix for its last digits. -/
theorem ordinalSuffix_categoryBy (k : Int) :
    Spellout.ordinalSuffix (categoryBy englishRanks (.ofInt k)) = rankSuffix k.natAbs := by
  unfold categoryBy englishRanks rankSuffix
  simp only [List.find?_cons, List.find?_nil, PluralRule.applies_byLastDigits]
  -- the first rule that applies is the first condition of the suffix that holds
  by_cases hone : k.natAbs % 10 = 1 ∧ k.natAbs % 100 ≠ 11
  · rw [if_pos hone]
    simp [hone, PluralRule.byLastDigits, Spellout.ordinalSuffix]
  · by_cases htwo : k.natAbs % 10 = 2 ∧ k.natAbs % 100 ≠ 12
    · rw [if_neg hone, if_pos htwo]
      simp [htwo, PluralRule.byLastDigits, Spellout.ordinalSuffix]
    · by_cases hfew : k.natAbs % 10 = 3 ∧ k.natAbs % 100 ≠ 13
      · rw [if_neg hone, if_neg htwo, if_pos hfew]
        simp [hfew, PluralRule.byLastDigits, Spellout.ordinalSuffix]
      · rw [if_neg hone, if_neg htwo, if_neg hfew]
        simp [hone, htwo, hfew, Spellout.ordinalSuffix]

/-! ### Where these rules apply -/

namespace LanguageTag

def ranksUnder? (name : String) : Option (List PluralRule) :=
  (ordinalRules.find? fun row => name ∈ row.1 && true).map (·.2)

/-- Rules for ranking are kept under names of two letters. -/
theorem ranksUnder?_eq_none {name : String} (h : name.length ≠ 2) : ranksUnder? name = none := by
  have hshort : ∀ row ∈ ordinalRules, ∀ key ∈ row.1, key.length = 2 := by decide
  have hnone : ordinalRules.find? (fun row => name ∈ row.1 && true) = none := by
    rw [List.find?_eq_none]
    intro row hrow
    have hname : name ∉ row.1 := fun hmem => h (hshort row hrow name hmem)
    simp [hname]
  rw [ranksUnder?, hnone]
  rfl

/-- What stands in for another name is English itself or has no rules for ranking. -/
theorem ranksUnder?_of_mem_withStandIns {name s : String} (hname : s ≠ name)
    (h : s ∈ withStandIns name) : s = "en" ∨ ranksUnder? s = none := by
  -- checked over the table: no language that stands in for another has ranks of its own
  have hrows : ∀ row ∈ standIns, ∀ s ∈ row.2, s = "en" ∨ ranksUnder? s = none := by
    decide
  have hmem : s ∈ ((standIns.find? fun row => name ∈ row.1).map (·.2)).getD [] :=
    (List.mem_cons.mp h).resolve_left hname
  cases hfound : standIns.find? fun row => name ∈ row.1 with
  | none =>
    rw [hfound] at hmem
    exact absurd hmem List.not_mem_nil
  | some row =>
    rw [hfound] at hmem
    exact hrows row (List.mem_of_find?_eq_some hfound) s hmem

/-- English in its usual script looks for its data under its own name, and under other names
    without rules for ranking. -/
theorem dataNames_of_english {t : LanguageTag} (hlanguage : t.language = "en")
    (hscript : t.unusualScript? = none) :
    "en" ∈ t.dataNames ∧ ∀ s ∈ t.dataNames, s = "en" ∨ ranksUnder? s = none := by
  have henglish : withStandIns "en" = ["en"] := by decide
  -- English in its usual script is named by two letters alone, with a region behind them or
  -- without
  have hbase : String.intercalate "-" (t.language :: t.unusualScript?.toList) = "en" := by
    rw [hlanguage, hscript]
    rfl
  unfold dataNames
  simp only [hbase, henglish]
  cases t.dataRegion with
  | none => simp
  | some region =>
    constructor
    · exact List.mem_append_right _ List.mem_cons_self
    · intro s hs
      rcases List.mem_append.mp hs with hregional | hbase
      · by_cases hself : s = "en" ++ "-" ++ region
        · -- a name with a region is longer than the names in the table
          right
          apply ranksUnder?_eq_none
          have hlengths : "en".length = 2 ∧ "-".length = 1 := by decide
          rw [hself, String.length_append, String.length_append, hlengths.1, hlengths.2]
          omega
        · exact ranksUnder?_of_mem_withStandIns hself hregional
      · exact Or.inl (List.mem_singleton.mp hbase)

/-- English in its usual script has the rules of English for ranking, in every region. -/
theorem pluralRules_ordinal_of_english {t : LanguageTag} (hlanguage : t.language = "en")
    (hscript : t.unusualScript? = none) : t.pluralRules .ordinal = englishRanks := by
  obtain ⟨henglish, hothers⟩ := dataNames_of_english hlanguage hscript
  have hself : ranksUnder? "en" = some englishRanks := by decide
  have hlookup : t.dataNames.findSome? ranksUnder? = some englishRanks := by
    cases hfound : t.dataNames.findSome? ranksUnder? with
    | none =>
      have hnone := List.findSome?_eq_none_iff.mp hfound "en" henglish
      rw [hself] at hnone
      cases hnone
    | some rules =>
      -- the name under which rules are found can only be that of English
      obtain ⟨s, hs, hrules⟩ := List.exists_of_findSome?_eq_some hfound
      rcases hothers s hs with rfl | hnone
      · rw [← hrules, hself]
      · rw [hnone] at hrules
        cases hrules
  show (t.dataNames.findSome? ranksUnder?).getD [] = englishRanks
  rw [hlookup]
  rfl

end LanguageTag

/-! ### Ranks -/

namespace Locale

theorem plain_of_integer (l : Locale) (n : Int64) :
    l.number .plain (.integer n) = .ok (l.decimalText (.ofInt n.toInt)) := rfl

theorem ordinal_of_integer {l : Locale} (hlanguage : l.tag.language = "en") (n : Int64) :
    l.number .ordinal (.integer n) = .ok (l.decimalText (.ofInt n.toInt) ++
      Spellout.ordinalSuffix (categoryBy (l.data.rules .ordinal) (.ofInt n.toInt))) := by
  show l.ordinalText (.integer n) = _
  unfold ordinalText
  rw [if_neg (not_not.mpr hlanguage)]
  rfl

/-- **English ranks.** With the rules of English for ranking, every integer is shown with all
    its digits, and its rank with the suffix behind them that goes by its last digits. The
    rank of a binary number is that of the integer it is rounded to, a half away from zero. -/
theorem rank_of_integer (l : Locale) (hlanguage : l.tag.language = "en")
    (hrules : l.data.rules .ordinal = englishRanks) :
    (∀ n : Int64, ∃ digits, l.number .plain (.integer n) = .ok digits ∧
      l.number .ordinal (.integer n) = .ok (digits ++ rankSuffix n.toInt.natAbs)) ∧
    ∀ (x : Binary64) (n : Int64), x.RoundsTo n.toInt →
      l.number .ordinal (.real x) = l.number .ordinal (.integer n) := by
  constructor
  · intro n
    refine ⟨l.decimalText (.ofInt n.toInt), l.plain_of_integer n, ?_⟩
    rw [ordinal_of_integer hlanguage, hrules, ordinalSuffix_categoryBy]
  · intro x n hrounds
    have hstyle : NumberStyle.ordinal ∈ roundingStyles := by decide
    exact l.number_of_rounded hstyle (rounded_of_roundsTo hrounds)

/-- The least integer, and a number half way to one hundred and eleven. -/
theorem ranks_of_least_integer_and_half :
    english.tag.language = "en" ∧ english.data.rules .ordinal = englishRanks ∧
      english.number .ordinal (.integer Int64.minValue) = .ok "-9,223,372,036,854,775,808th" ∧
      english.number .ordinal (.real (.ofRatio false 221 2)) = .ok "111th" := by
  have hlanguage : english.tag.language = "en" := rfl
  have hrules : english.data.rules .ordinal = englishRanks :=
    LanguageTag.pluralRules_ordinal_of_english hlanguage rfl
  obtain ⟨hinteger, hreal⟩ := rank_of_integer english hlanguage hrules
  refine ⟨hlanguage, hrules, ?_, ?_⟩
  · obtain ⟨digits, hplain, hrank⟩ := hinteger Int64.minValue
    have hshown : english.number .plain (.integer Int64.minValue) =
        .ok "-9,223,372,036,854,775,808" := by decide
    obtain rfl := Except.ok.inj (hshown.symm.trans hplain)
    exact hrank
  · have hrounds : (Binary64.ofRatio false 221 2).RoundsTo (111 : Int64).toInt := by
      decide +kernel
    obtain ⟨digits, hplain, hrank⟩ := hinteger 111
    have hshown : english.number .plain (.integer 111) = .ok "111" := by decide
    obtain rfl := Except.ok.inj (hshown.symm.trans hplain)
    exact (hreal _ _ hrounds).trans hrank

end Locale

end Phrasebook
