import Phrasebook.Number.Affixes
import Phrasebook.Proofs.Text.Bytes

/-! # Affixes and the pattern they come from

    A pattern is cut at its first and behind its last place for a digit. Counted in bytes
    the cut behind is one further than the last place, as a place is a character of a
    single byte; so no character of several bytes is cut, whatever stands around the
    places.

    Around the digits of a number each affix shows the symbol for every currency sign. A
    symbol whose letter would touch the digits is kept apart by one space, so a letter next
    to the digits is a character of the pattern.
-/

namespace Phrasebook

namespace Affixes

open Text

/-! ### Cutting a pattern -/

/-- A text is the affixes around a run from one place for a digit to another, or around a
    single place, and has no places outside of the run. -/
structure Frames (a : Affixes) (places text : List Char) : Prop where
  text_eq : text = a.before ++ places ++ a.behind
  starts : ∃ c cs, places = c :: cs ∧ isPlace c = true
  ends : ∃ cs c, places = cs ++ [c] ∧ isPlace c = true
  before : ∀ c ∈ a.before, isPlace c = false
  behind : ∀ c ∈ a.behind, isPlace c = false

/-- The affixes of a text, cut at places that are counted in bytes: at the first place for
    a digit, and one byte behind the last one. There are none if that would cut a character
    in two. -/
def cut? (text : List Char) : Option Affixes :=
  match firstByte? isPlace text, lastByte? isPlace text with
  | some first, some last => do
    let (before, _) ← cutAtByte? first text
    let (_, behind) ← cutAtByte? (last + 1) text
    return ⟨before, behind⟩
  | _, _ => some ⟨text, []⟩

theorem exists_first {p : Char → Bool} {cs : List Char} (h : ∃ c ∈ cs, p c = true) :
    ∃ before c behind, cs = before ++ c :: behind ∧ p c = true ∧ ∀ d ∈ before, p d = false := by
  obtain ⟨c, hc⟩ := Option.isSome_iff_exists.mp (List.find?_isSome.mpr h)
  obtain ⟨hp, before, behind, hcs, hbefore⟩ := List.find?_eq_some_iff_append.mp hc
  exact ⟨before, c, behind, hcs, hp, fun d hd => by simpa using hbefore d hd⟩

section
variable {a : Affixes} {places text pattern : List Char}

/-- A text with a place for a digit is framed by affixes. -/
theorem exists_frames (h : ∃ c ∈ text, isPlace c = true) : ∃ a places, Frames a places text := by
  obtain ⟨before, c, rest, htext, hc, hbefore⟩ := exists_first h
  -- the last place is the first one from behind
  have hlast : ∃ d ∈ (c :: rest).reverse, isPlace d = true := ⟨c, by simp, hc⟩
  obtain ⟨behind, d, inner, hrest, hd, hbehind⟩ := exists_first hlast
  have hplaces : c :: rest = inner.reverse ++ [d] ++ behind.reverse := by
    simpa using congrArg List.reverse hrest
  refine ⟨⟨before, behind.reverse⟩, inner.reverse ++ [d], ?_, ?_, ⟨_, d, rfl, hd⟩, hbefore, ?_⟩
  · rw [htext, hplaces, List.append_assoc before]
  · cases hinner : inner.reverse with
    | nil => exact ⟨d, [], rfl, hd⟩
    | cons e es =>
      rw [hinner] at hplaces
      exact ⟨c, es ++ [d], by rw [(List.cons.inj hplaces).1]; rfl, hc⟩
  · intro e he
    exact hbehind e (List.mem_reverse.mp he)

theorem takeWhile_not_isPlace {cs ds : List Char} {c : Char} (hcs : ∀ d ∈ cs, isPlace d = false)
    (hc : isPlace c = true) : (cs ++ c :: ds).takeWhile (fun d => !isPlace d) = cs := by
  rw [List.takeWhile_append_of_pos (by simpa using hcs), List.takeWhile_cons_of_neg (by simp [hc]),
    List.append_nil]

/-- The affixes of a pattern frame the run of places in its positive subpattern. -/
theorem ofPattern_of_frames (h : a.Frames places (pattern.takeWhile (· ≠ ';'))) :
    ofPattern pattern = a := by
  -- the run of places ends in places on both sides, so both cuts stop at it
  obtain ⟨c, cs, hstarts, hc⟩ := h.starts
  obtain ⟨ds, d, hends, hd⟩ := h.ends
  have hfront : pattern.takeWhile (· ≠ ';') = a.before ++ c :: (cs ++ a.behind) := by
    rw [h.text_eq, hstarts, List.append_assoc, List.cons_append]
  have hback : (pattern.takeWhile (· ≠ ';')).reverse =
      a.behind.reverse ++ d :: (ds.reverse ++ a.before.reverse) := by
    rw [h.text_eq, hends]
    simp
  have hany : (pattern.takeWhile (· ≠ ';')).any isPlace = true := by
    rw [hfront]
    simp [hc]
  have hbehind : ∀ e ∈ a.behind.reverse, isPlace e = false :=
    fun e he => h.behind e (List.mem_reverse.mp he)
  unfold ofPattern
  rw [if_pos hany, hback, hfront, takeWhile_not_isPlace h.before hc,
    takeWhile_not_isPlace hbehind hd, List.reverse_reverse]

/-- Without a place for a digit the whole subpattern stands before the digits. -/
theorem ofPattern_of_no_place (h : ∀ c ∈ pattern.takeWhile (· ≠ ';'), isPlace c = false) :
    ofPattern pattern = ⟨pattern.takeWhile (· ≠ ';'), []⟩ := by
  have hany : ¬ (pattern.takeWhile (· ≠ ';')).any isPlace = true := by
    rw [List.any_eq_true]
    rintro ⟨c, hc, hplace⟩
    rw [h c hc] at hplace
    cases hplace
  unfold ofPattern
  rw [if_neg hany]

/-- A place is a character of a single byte. -/
theorem utf8Size_of_isPlace {c : Char} (h : isPlace c = true) : c.utf8Size = 1 := by
  obtain rfl | rfl : c = '#' ∨ c = '0' := by simpa [isPlace] using h
  · rfl
  · rfl

/-- **A pattern is cut between characters** where its places are counted in bytes. -/
theorem cut?_of_frames (h : a.Frames places text) : cut? text = some a := by
  obtain ⟨c, cs, hstarts, hc⟩ := h.starts
  obtain ⟨ds, d, hends, hd⟩ := h.ends
  have hfirst : firstByte? isPlace text = some (byteCount a.before) := by
    rw [h.text_eq, hstarts, List.append_assoc]
    exact firstByte?_append h.before hc
  have hlast : lastByte? isPlace text = some (byteCount (a.before ++ ds)) := by
    rw [h.text_eq, hends, ← List.append_assoc, List.append_assoc (a.before ++ ds)]
    exact lastByte?_append hd (lastByte?_eq_none h.behind)
  have hbefore : cutAtByte? (byteCount a.before) text = some (a.before, places ++ a.behind) :=
    cutAtByte?_eq_some_iff.mpr ⟨by rw [h.text_eq, List.append_assoc], rfl⟩
  -- one byte behind the last place is the place behind it
  have hbehind : cutAtByte? (byteCount (a.before ++ ds) + 1) text =
      some (a.before ++ places, a.behind) := by
    refine cutAtByte?_eq_some_iff.mpr ⟨h.text_eq, ?_⟩
    rw [hends, ← List.append_assoc, byteCount_append _ [d], byteCount_cons,
      utf8Size_of_isPlace hd, byteCount_nil]
  unfold cut?
  rw [hfirst, hlast]
  show (cutAtByte? _ text).bind _ = _
  rw [hbefore]
  show (cutAtByte? _ text).bind _ = _
  rw [hbehind]
  rfl

theorem cut?_of_no_place (h : ∀ c ∈ text, isPlace c = false) : cut? text = some ⟨text, []⟩ := by
  unfold cut?
  rw [firstByte?_eq_none h]

/-- Cutting at places that are counted in bytes gives the affixes. -/
theorem cut?_eq (pattern : List Char) :
    cut? (pattern.takeWhile (· ≠ ';')) = some (ofPattern pattern) := by
  by_cases h : ∃ c ∈ pattern.takeWhile (· ≠ ';'), isPlace c = true
  · obtain ⟨a, places, hframes⟩ := exists_frames h
    rw [cut?_of_frames hframes, ofPattern_of_frames hframes]
  · have hnone : ∀ c ∈ pattern.takeWhile (· ≠ ';'), isPlace c = false := by
      intro c hc
      exact Bool.eq_false_iff.mpr fun hplace => h ⟨c, hc, hplace⟩
    rw [cut?_of_no_place hnone, ofPattern_of_no_place hnone]

end

/-! ### Around the digits -/

section
variable {symbol affix : List Char} {c : Char}

/-- The symbol stands between the pieces that the currency signs leave of an affix. -/
theorem withSymbol_eq_intercalate (symbol affix : List Char) :
    withSymbol symbol affix = symbol.intercalate (affix.splitOn currencySign) := by
  -- induction on the affix; the pieces of the rest are known by the hypothesis
  induction affix with
  | nil => rfl
  | cons c cs ih =>
    obtain ⟨p, ps, hpieces⟩ := List.exists_cons_of_ne_nil (List.splitOn_ne_nil currencySign cs)
    have hcons : withSymbol symbol (c :: cs) =
        (if c = currencySign then symbol else [c]) ++ symbol.intercalate (p :: ps) := by
      rw [← hpieces, ← ih]
      rfl
    rw [hcons, List.splitOn_cons_eq_if_modifyHead, hpieces]
    by_cases hc : c = currencySign
    · rw [if_pos hc, if_pos (beq_iff_eq.mpr hc), List.intercalate_cons_cons, List.nil_append]
    · rw [if_neg hc, if_neg (mt beq_iff_eq.mp hc), List.modifyHead_cons]
      -- the character is put before the first piece
      cases ps with
      | nil => simp
      | cons q qs => simp [List.intercalate_cons_cons]

set_option maxRecDepth 8000 in
/-- The sign of a number, the currency sign, the space that keeps letters apart and the
    mark for the direction of the text are no letters. -/
theorem isLetter_eq_false :
    ∀ c ∈ ['-', currencySign, noBreakSpace, '\u200f'], isLetter c = false := by
  simp only [List.forall_mem_cons]
  exact ⟨by decide, by decide, by decide, by decide, List.forall_mem_nil _⟩

/-- A letter behind the digits is the first character of the pattern there: a letter of the
    symbol is kept apart. -/
theorem head?_of_isLetter (hsymbol : symbol ≠ []) (hc : isLetter c = true)
    (h : (spacing affix.head? symbol.head? ++ withSymbol symbol affix).head? = some c) :
    affix.head? = some c := by
  obtain ⟨e, es, rfl⟩ := List.exists_cons_of_ne_nil hsymbol
  cases affix with
  | nil => cases h
  | cons d ds =>
    by_cases hd : d = currencySign
    · -- the symbol comes first, with a space before it if it starts with a letter
      subst hd
      by_cases he : isLetter e = true
      · have hspace : noBreakSpace = c := by simpa [spacing, he] using h
        rw [← hspace, isLetter_eq_false _ (by decide)] at hc
        cases hc
      · have hsame : e = c := by simpa [spacing, he, withSymbol] using h
        rw [hsame] at he
        exact absurd hc he
    · simpa [spacing, hd, withSymbol] using h

/-- An affix is written backwards with the symbol backwards. -/
theorem reverse_withSymbol (symbol affix : List Char) :
    (withSymbol symbol affix).reverse = withSymbol symbol.reverse affix.reverse := by
  unfold withSymbol
  rw [List.reverse_flatMap]
  congr 1
  funext c
  by_cases hc : c = currencySign <;> simp [hc]

/-- A letter before the digits is the last character of the pattern there. -/
theorem getLast?_of_isLetter (hsymbol : symbol ≠ []) (hc : isLetter c = true)
    (h : (withSymbol symbol affix ++ spacing affix.getLast? symbol.getLast?).getLast? = some c) :
    affix.getLast? = some c := by
  -- written backwards, the character before the digits is the one behind them
  have hspacing : ∀ a b, (spacing a b).reverse = spacing a b := by
    intro a b
    unfold spacing
    split <;> rfl
  rw [← List.head?_reverse, List.reverse_append, hspacing, reverse_withSymbol,
    ← List.head?_reverse, ← List.head?_reverse] at h
  rw [← List.head?_reverse]
  exact head?_of_isLetter (by simpa using hsymbol) hc h

theorem mem_withSymbol (h : c ∈ withSymbol symbol affix) : c ∈ affix ∨ c ∈ symbol := by
  obtain ⟨d, hd, hc⟩ := List.mem_flatMap.mp h
  split at hc
  · exact Or.inr hc
  · rw [List.mem_singleton] at hc
    exact Or.inl (hc ▸ hd)

theorem mem_spacing {ofPattern ofSymbol : Option Char} (h : c ∈ spacing ofPattern ofSymbol) :
    c = noBreakSpace := by
  unfold spacing at h
  split at h
  · exact List.mem_singleton.mp h
  · cases h

/-- Where no symbol is shown there are no letters but those of the affix. -/
theorem isLetter_of_no_symbol {ofPattern ofSymbol : Option Char}
    (haffix : ∀ d ∈ affix, isLetter d = false)
    (h : c ∈ withSymbol [] affix ∨ c ∈ spacing ofPattern ofSymbol) : isLetter c = false := by
  rcases h with h | h
  · rcases mem_withSymbol h with hc | hc
    · exact haffix c hc
    · cases hc
  · rw [mem_spacing h]
    exact isLetter_eq_false _ (by decide)

end

section
variable {a : Affixes} {symbol : List Char} {negative : Bool} {c : Char}

def left (a : Affixes) (negative : Bool) (symbol : List Char) : List Char :=
  (if negative then ['-'] else []) ++
    (withSymbol symbol a.before ++ spacing a.before.getLast? symbol.getLast?)

def right (a : Affixes) (symbol : List Char) : List Char :=
  spacing a.behind.head? symbol.head? ++ withSymbol symbol a.behind

theorem apply_eq (a : Affixes) (negative : Bool) (digits symbol : List Char) :
    a.apply negative digits symbol = a.left negative symbol ++ digits ++ a.right symbol := by
  simp [apply, left, right]

/-- The last character before the digits is that of the affix or a minus sign. -/
theorem getLast?_left (h : (a.left negative symbol).getLast? = some c) :
    (withSymbol symbol a.before ++ spacing a.before.getLast? symbol.getLast?).getLast? = some c ∨
      c = '-' := by
  unfold left at h
  rw [List.getLast?_append, Option.or_eq_some_iff] at h
  rcases h with haffix | ⟨-, hsign⟩
  · exact Or.inl haffix
  · cases negative with
    | true => exact Or.inr (Option.some.inj hsign).symm
    | false => cases hsign

/-- **A letter next to the digits is one of the pattern**: the symbol does not touch them
    with a letter. -/
theorem getLast?_before_of_isLetter (hsymbol : symbol ≠ []) (hc : isLetter c = true)
    (h : (a.left negative symbol).getLast? = some c) : a.before.getLast? = some c := by
  rcases getLast?_left h with haffix | rfl
  · exact getLast?_of_isLetter hsymbol hc haffix
  · rw [isLetter_eq_false _ (by decide)] at hc
    cases hc

/-- Affixes without letters have none next to the digits, whatever the symbol is. -/
theorem isLetter_getLast?_left (ha : ∀ d ∈ a.before, isLetter d = false)
    (h : (a.left negative symbol).getLast? = some c) : isLetter c = false := by
  rcases getLast?_left h with haffix | rfl
  · by_cases hsymbol : symbol = []
    · subst hsymbol
      exact isLetter_of_no_symbol ha (List.mem_append.mp (List.mem_of_getLast? haffix))
    · refine Bool.eq_false_iff.mpr fun hc => ?_
      rw [ha c (List.mem_of_getLast? (getLast?_of_isLetter hsymbol hc haffix))] at hc
      cases hc
  · exact isLetter_eq_false _ (by decide)

theorem isLetter_head?_right (ha : ∀ d ∈ a.behind, isLetter d = false)
    (h : (a.right symbol).head? = some c) : isLetter c = false := by
  by_cases hsymbol : symbol = []
  · subst hsymbol
    exact isLetter_of_no_symbol ha (List.mem_append.mp (List.mem_of_head? h)).symm
  · refine Bool.eq_false_iff.mpr fun hc => ?_
    rw [ha c (List.mem_of_head? (head?_of_isLetter hsymbol hc h))] at hc
    cases hc

end

end Affixes

end Phrasebook
