import Phrasebook.Proofs.Locale.Money
import Phrasebook.Proofs.Locale.Percent
import Phrasebook.Proofs.Number.Affixes

/-! # Digits and what stands around them

    The patterns of all locales are cut at their places for digits, and an amount of money
    is put together around its digits again. No locale has a letter in its affixes, so in
    an amount no letter is next to the digits, of whatever currency it is.
-/

namespace Phrasebook

open Text

/-- No locale has a letter around its amounts of money. -/
theorem LanguageTag.isLetter_currencyAffixes (tag : LanguageTag) :
    (∀ c ∈ tag.currencyAffixes.before, isLetter c = false) ∧
      ∀ c ∈ tag.currencyAffixes.behind, isLetter c = false := by
  -- checked over the table: these characters are all that stands around amounts of money
  have hall : ∀ patterns ∈ NumberPatterns.root :: NumberPatterns.table.map Prod.snd,
      (Affixes.ofPattern patterns.currency.toList).before ++
          (Affixes.ofPattern patterns.currency.toList).behind ⊆
        ['-', currencySign, noBreakSpace, '\u200f'] := by
    decide
  have hsubset := hall _ tag.mem_numberPatterns
  exact ⟨fun c hc => Affixes.isLetter_eq_false c (hsubset (List.mem_append_left _ hc)),
    fun c hc => Affixes.isLetter_eq_false c (hsubset (List.mem_append_right _ hc))⟩

namespace Locale

theorem currencyText_eq_ok {l : Locale} {q : Quantity} {s : String}
    (h : l.currencyText q = .ok s) :
    ∃ d, q.toBinary64.abs.toFixed? (Currency.ofCode l.currency).places = some d ∧
      s = String.ofList (l.tag.currencyAffixes.left q.toBinary64.isBelowZero
          (Currency.ofCode l.currency).symbol.toList ++ l.data.symbols.chars d ++
        l.tag.currencyAffixes.right (Currency.ofCode l.currency).symbol.toList) := by
  unfold currencyText at h
  dsimp only at h
  split at h
  · next d hd =>
    rw [Affixes.apply_eq] at h
    exact ⟨d, hd, (Except.ok.inj h).symm⟩
  · cases h

/-- **Affixes are cut off a pattern and put around the digits.** Of a pattern only what
    stands before the first semicolon counts. If that has a place for a digit, the affixes
    are what stands before the first place and behind the last one; otherwise it all stands
    before the digits. Cutting at places that are counted in bytes never fails and gives the
    same affixes.

    Around any digits there is a minus sign for a negative number, and then the affixes with
    the symbol for each currency sign. Where a currency sign is next to the digits and the
    symbol ends towards them in a letter, one space is put in between. So a letter next to
    the digits is not one of the symbol but the last, or the first, character of the pattern
    there. In an amount of money no letter is next to the digits at all. -/
theorem affixes_stand_around_digits :
    (∀ pattern : List Char,
      let text := pattern.takeWhile (· ≠ ';')
      let a := Affixes.ofPattern pattern
      Affixes.cut? text = some a ∧
        ((∃ c ∈ text, Affixes.isPlace c = true) → ∃ places, a.Frames places text) ∧
        ((∀ c ∈ text, Affixes.isPlace c = false) → a = ⟨text, []⟩)) ∧
    (∀ (a : Affixes) (negative : Bool) (digits symbol : List Char),
      a.apply negative digits symbol = a.left negative symbol ++ digits ++ a.right symbol ∧
        a.left negative symbol = (if negative then ['-'] else []) ++
          (symbol.intercalate (a.before.splitOn currencySign) ++
            if a.before.getLast? = some currencySign ∧ symbol.getLast?.any isLetter then
              [noBreakSpace] else []) ∧
        a.right symbol =
          (if a.behind.head? = some currencySign ∧ symbol.head?.any isLetter then
              [noBreakSpace] else []) ++
            symbol.intercalate (a.behind.splitOn currencySign) ∧
        (symbol ≠ [] → ∀ c, isLetter c = true →
          ((a.left negative symbol).getLast? = some c → a.before.getLast? = some c) ∧
            ((a.right symbol).head? = some c → a.behind.head? = some c))) ∧
    ∀ (l : Locale) (q : Quantity) (s : String), l.number .currency q = .ok s →
      let money := Currency.ofCode l.currency
      let left := l.tag.currencyAffixes.left q.toBinary64.isBelowZero money.symbol.toList
      let right := l.tag.currencyAffixes.right money.symbol.toList
      ∃ d, q.toBinary64.abs.toFixed? money.places = some d ∧
        s = String.ofList (left ++ l.data.symbols.chars d ++ right) ∧
        ∀ c, left.getLast? = some c ∨ right.head? = some c → isLetter c = false := by
  -- what is cut, what is put together, and what then stands around an amount
  refine ⟨?_, ?_, ?_⟩
  · intro pattern
    refine ⟨Affixes.cut?_eq pattern, ?_, Affixes.ofPattern_of_no_place⟩
    intro hplace
    obtain ⟨a, places, hframes⟩ := Affixes.exists_frames hplace
    exact ⟨places, Affixes.ofPattern_of_frames hframes ▸ hframes⟩
  · intro a negative digits symbol
    refine ⟨a.apply_eq negative digits symbol, ?_, ?_, ?_⟩
    · rw [← Affixes.withSymbol_eq_intercalate]
      rfl
    · rw [← Affixes.withSymbol_eq_intercalate]
      rfl
    · intro hsymbol c hc
      exact ⟨Affixes.getLast?_before_of_isLetter hsymbol hc, Affixes.head?_of_isLetter hsymbol hc⟩
  · intro l q s hs
    obtain ⟨hbefore, hbehind⟩ := l.tag.isLetter_currencyAffixes
    obtain ⟨d, hd, htext⟩ := currencyText_eq_ok hs
    refine ⟨d, hd, htext, ?_⟩
    -- a letter could only come from the symbol, which is kept apart, or from the pattern
    rintro c (hc | hc)
    · exact Affixes.isLetter_getLast?_left hbefore hc
    · exact Affixes.isLetter_head?_right hbehind hc

/-- A pattern with marks of several bytes, a pattern with a letter of its own next to the
    digits, and Swiss francs in English. -/
theorem affixes_of_marked_pattern :
    let pattern := "\u200f#,##0.00\u00a0¤;\u200f-#,##0.00\u00a0¤".toList
    let lettered : Affixes := ⟨"¤ x".toList, []⟩
    let francs := english.withCurrency "CHF"
    Affixes.ofPattern pattern = ⟨['\u200f'], ['\u00a0', '¤']⟩ ∧
      (∃ places, (Affixes.ofPattern pattern).Frames places (pattern.takeWhile (· ≠ ';'))) ∧
      (lettered.left true "CHF".toList).getLast? = some 'x' ∧
      lettered.before.getLast? = some 'x' ∧
      francs.number .currency (.integer 5) = .ok "CHF\u00a05.00" ∧
      isLetter noBreakSpace = false := by
  intro pattern lettered francs
  obtain ⟨hcut, happly, hmoney⟩ := affixes_stand_around_digits
  have hplace : ∃ c ∈ pattern.takeWhile (· ≠ ';'), Affixes.isPlace c = true :=
    ⟨'#', by decide, by decide⟩
  have hletter : isLetter 'x' = true := by decide
  have hlast : (lettered.left true "CHF".toList).getLast? = some 'x' := by decide
  have hsign : (Quantity.integer 5).toBinary64.isBelowZero = false :=
    Binary64.isBelowZero_ofInt (5 : Int64).toInt
  have hfive : (Quantity.integer 5).toBinary64.integer? = some (5 : Int64).toInt :=
    Binary64.integer?_ofInt (n := (5 : Int64).toInt) (Binary64.representable_of_lt (by decide))
  have htext : francs.number .currency (.integer 5) = .ok "CHF\u00a05.00" := by
    have hamount := currencyText_of_integer? francs hfive
    rw [hsign] at hamount
    exact hamount.trans (congrArg Except.ok (by decide))
  -- between the code and the digits there is the space
  have hspace : (francs.tag.currencyAffixes.left (Quantity.integer 5).toBinary64.isBelowZero
      (Currency.ofCode francs.currency).symbol.toList).getLast? = some noBreakSpace := by
    rw [hsign]
    decide
  obtain ⟨_, -, -, hnone⟩ := hmoney francs _ _ htext
  exact ⟨by decide, (hcut pattern).2.1 hplace, hlast,
    ((happly lettered true [] _).2.2.2 (by decide) 'x' hletter).1 hlast, htext,
    hnone noBreakSpace (Or.inl hspace)⟩

end Locale

end Phrasebook
