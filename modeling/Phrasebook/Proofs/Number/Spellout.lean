import Phrasebook.Proofs.Number.Words

/-! # Spelled numbers

    Just the decimal literals of integers of 64 bits, with or without a fraction, are
    spelled: a sign, digits, and digits behind a point. Their words are found in tables
    that are never left, and they can be taken apart again: the word for the minus sign,
    the words of the integer, which are read back as it, and a word for each digit of the
    fraction. So two literals are spelled alike only if they have the same sign word,
    the same integer and the same digits behind the point.
-/

namespace Phrasebook

open Text

theorem Text.natural?_eq_some_iff {cs : List Char} {n : Nat} :
    natural? cs = some n ↔
      cs ≠ [] ∧ (∀ c ∈ cs, c.isDigit = true) ∧ Nat.ofDigitChars 10 cs 0 = n := by
  unfold natural?
  by_cases hne : cs = []
  · simp [hne]
  · by_cases hall : ∀ c ∈ cs, c.isDigit = true
    · simp [hne]
    · simp [hall]

namespace Spellout

/-! ### Tables of words

    The same spelling with every access to a table in plain sight: there is no result
    where an index is beyond the end of a table. -/

/-- The words for a number below a hundred, if the tables have them. -/
def checkedBelowHundred (n : Nat) : Option (List String) :=
  if n = 0 then some []
  else if n < 20 then ones[n]?.map fun w => [w]
  else do
    let t ← tens[n / 10 - 2]?
    if n % 10 = 0 then return [t]
    let u ← ones[n % 10]?
    return [t ++ "-" ++ u]

/-- The words for a number below a thousand, if the tables have them. -/
def checkedBelowThousand (n : Nat) : Option (List String) := do
  let hundreds ← if n / 100 = 0 then some [] else ones[n / 100]?.map fun w => [w, "hundred"]
  let rest ← checkedBelowHundred (n % 100)
  return hundreds ++ rest

/-- The words for a number in groups, if there are scales for all of them. -/
def checkedGroups : List (List String) → Nat → Option (List String)
  -- a group that is left over has no scale
  | [], n => if n = 0 then some [] else none
  | scale :: scales, n =>
    if n = 0 then some []
    else do
      let higher ← checkedGroups scales (n / 1000)
      let lowest ←
        if n % 1000 = 0 then some [] else (checkedBelowThousand (n % 1000)).map (· ++ scale)
      return higher ++ lowest

/-- The words for a natural number, if the tables have them. -/
def checkedNatural (n : Nat) : Option (List String) :=
  if n = 0 then ones[0]?.map fun w => [w] else checkedGroups scales n

/-- The words for the digits up to one that is no digit, if the table has them. -/
def checkedDigits : List Char → Option (Option (List String))
  | [] => some (some [])
  | c :: cs =>
    match digit? c with
    -- the text is refused before any table is asked
    | none => some none
    | some d => do
      let w ← ones[d]?
      let ws? ← checkedDigits cs
      return ws?.map (w :: ·)

/-- The words for a decimal text, or that it is none, if the tables have the words. -/
def checkedWords (cs : List Char) : Option (Option (List String)) :=
  let whole := cs.takeWhile (· != '.')
  let fraction := (cs.dropWhile (· != '.')).drop 1
  match int64? whole with
  | none => some none
  | some n => do
    let integer ← checkedNatural n.toInt.natAbs
    let ds? ← checkedDigits fraction
    return ds?.map fun ds =>
      (if whole.head? = some '-' then ["minus"] else []) ++ integer ++
        if ds.isEmpty then [] else "point" :: ds

theorem ones_of_lt {n : Nat} (h : n < 20) : ones[n]? = some (one n) := by
  have hlength : n < ones.length := h
  rw [one, List.getD_eq_getElem?_getD, List.getElem?_eq_getElem hlength]
  rfl

theorem tens_of_lt {n : Nat} (h : n < 10) : tens[n - 2]? = some (ten n) := by
  have hlength : n - 2 < tens.length := by
    show n - 2 < 8
    omega
  rw [ten, List.getD_eq_getElem?_getD, List.getElem?_eq_getElem hlength]
  rfl

theorem checkedBelowHundred_eq {n : Nat} (h : n < 100) :
    checkedBelowHundred n = some (belowHundred n) := by
  unfold checkedBelowHundred belowHundred
  -- the same three cases on both sides: nothing to say, one word, tens with or without units
  by_cases hzero : n = 0
  · rw [if_pos hzero, if_pos hzero]
  · by_cases hsmall : n < 20
    · rw [if_neg hzero, if_neg hzero, if_pos hsmall, if_pos hsmall, ones_of_lt hsmall]
      rfl
    · rw [if_neg hzero, if_neg hzero, if_neg hsmall, if_neg hsmall, tens_of_lt (by omega),
        ones_of_lt (by omega)]
      by_cases hround : n % 10 = 0
      · simp [hround]
      · simp [hround]

theorem checkedBelowThousand_eq {n : Nat} (h : n < 1000) :
    checkedBelowThousand n = some (belowThousand n) := by
  unfold checkedBelowThousand belowThousand
  rw [ones_of_lt (by omega), checkedBelowHundred_eq (Nat.mod_lt _ (by decide))]
  by_cases hzero : n / 100 = 0
  · simp [hzero]
  · simp [hzero]

theorem checkedGroups_eq (names : List (List String)) :
    ∀ n < 1000 ^ names.length, checkedGroups names n = some (groups names n) := by
  -- induction on the names of the powers; every group below one has a name left for it
  induction names with
  | nil =>
    intro n hn
    have hzero : n = 0 := by simpa using hn
    rw [hzero]
    rfl
  | cons name names ih =>
    intro n hn
    have hdiv : n / 1000 < 1000 ^ names.length := by
      rw [List.length_cons, Nat.pow_succ] at hn
      omega
    rw [checkedGroups, groups, ih _ hdiv, checkedBelowThousand_eq (Nat.mod_lt _ (by decide))]
    by_cases hzero : n = 0
    · rw [if_pos hzero, if_pos hzero]
    · by_cases hsilent : n % 1000 = 0
      · simp [hzero, hsilent]
      · simp [hzero, hsilent]

/-- There are scales for all numbers of twenty-one digits. -/
theorem checkedNatural_eq {n : Nat} (h : n < 1000 ^ 7) :
    checkedNatural n = some (naturalWords n) := by
  unfold checkedNatural naturalWords
  by_cases hzero : n = 0
  · rw [if_pos hzero, if_pos hzero]
    rfl
  · rw [if_neg hzero, if_neg hzero]
    exact checkedGroups_eq scales n h

theorem digit?_of_isDigit {c : Char} (h : c.isDigit = true) :
    ∃ d < 10, digit? c = some d ∧ c.toNat = d + 48 := by
  have hrange : 48 ≤ c.toNat ∧ c.toNat ≤ 57 := by
    simpa [Char.isDigit, UInt32.le_iff_toNat_le] using h
  have hdigit : digit? c = some (c.toNat - 48) := if_pos h
  exact ⟨c.toNat - 48, by omega, hdigit, by omega⟩

theorem isDigit_of_digit? {c : Char} {d : Nat} (h : digit? c = some d) : c.isDigit = true := by
  unfold digit? at h
  split at h
  · next hc => exact hc
  · cases h

theorem checkedDigits_eq (cs : List Char) : checkedDigits cs = some (digitWords? cs) := by
  induction cs with
  | nil => rfl
  | cons c cs ih =>
    rw [checkedDigits, digitWords?, digitWord?]
    cases hd : digit? c with
    | none => rfl
    | some d =>
      obtain ⟨k, hk, hdigit, -⟩ := digit?_of_isDigit (isDigit_of_digit? hd)
      have hsmall : d < 20 := by
        rw [Option.some.inj (hd.symm.trans hdigit)]
        omega
      show (ones[d]?).bind _ = _
      rw [ones_of_lt hsmall, ih]
      cases digitWords? cs <;> rfl

theorem natAbs_lt (n : Int64) : n.toInt.natAbs < 1000 ^ 7 := by
  have hlow := n.le_toInt
  have hhigh := n.toInt_lt
  omega

/-- **The tables are never left**, whatever the text is. -/
theorem checkedWords_eq (cs : List Char) : checkedWords cs = some (words? cs) := by
  unfold checkedWords words?
  dsimp only
  cases int64? (cs.takeWhile (· != '.')) with
  | none => rfl
  | some n =>
    dsimp only
    rw [checkedNatural_eq (natAbs_lt n), checkedDigits_eq]
    cases digitWords? ((cs.dropWhile (· != '.')).drop 1) <;> rfl

/-! ### Digits of a fraction -/

def digitWord (c : Char) : String :=
  one (c.toNat - '0'.toNat)

/-- Digits are spelled one by one. -/
theorem digitWords?_of_isDigit {cs : List Char} (h : ∀ c ∈ cs, c.isDigit = true) :
    digitWords? cs = some (cs.map digitWord) := by
  induction cs with
  | nil => rfl
  | cons c cs ih =>
    obtain ⟨hc, hcs⟩ := List.forall_mem_cons.mp h
    have hword : digitWord? c = some (digitWord c) := by
      rw [digitWord?, digit?, if_pos hc]
      rfl
    rw [digitWords?, hword, ih hcs]
    rfl

/-- Nothing but digits is spelled one by one. -/
theorem isDigit_of_digitWords? {cs : List Char} :
    ∀ {ws}, digitWords? cs = some ws → ∀ c ∈ cs, c.isDigit = true := by
  induction cs with
  | nil => exact fun _ _ hc => absurd hc List.not_mem_nil
  | cons c cs ih =>
    intro ws h
    obtain ⟨w, hw, hrest⟩ := Option.bind_eq_some_iff.mp h
    obtain ⟨ws', hws, -⟩ := Option.bind_eq_some_iff.mp hrest
    obtain ⟨d, hd, -⟩ := Option.map_eq_some_iff.mp hw
    exact List.forall_mem_cons.mpr ⟨isDigit_of_digit? hd, ih hws⟩

/-- The word for a digit is that of the number which it stands for. -/
theorem exists_digitWord_eq {c : Char} (h : c.isDigit = true) :
    ∃ d < 10, c.toNat = d + 48 ∧ digitWord c = one d := by
  obtain ⟨d, hd, -, hvalue⟩ := digit?_of_isDigit h
  refine ⟨d, hd, hvalue, ?_⟩
  show one (c.toNat - 48) = one d
  rw [hvalue, Nat.add_sub_cancel]

theorem digitWord_inj {c c' : Char} (hc : c.isDigit = true) (hc' : c'.isDigit = true)
    (h : digitWord c = digitWord c') : c = c' := by
  -- checked for all ten digits: their words are read back
  have hread : ∀ n < 10, NumberWords.cardinal? (one n) = some n := by decide +kernel
  obtain ⟨d, hd, hvalue, hword⟩ := exists_digitWord_eq hc
  obtain ⟨d', hd', hvalue', hword'⟩ := exists_digitWord_eq hc'
  rw [hword, hword'] at h
  -- the word stands for both numbers
  have hsame : d = d' := by
    have hboth := hread d hd
    rw [h, hread d' hd'] at hboth
    exact (Option.some.inj hboth).symm
  apply Char.toNat_inj.mp
  omega

theorem map_digitWord_inj {cs : List Char} : ∀ {cs'}, (∀ c ∈ cs, c.isDigit = true) →
    (∀ c ∈ cs', c.isDigit = true) → cs.map digitWord = cs'.map digitWord → cs = cs' := by
  induction cs with
  | nil =>
    intro cs' _ _ h
    exact (List.map_eq_nil_iff.mp h.symm).symm
  | cons c cs ih =>
    intro cs' hcs hcs' h
    obtain ⟨c', rest, rfl, hword, hrest⟩ := List.map_eq_cons_iff.mp h.symm
    obtain ⟨hc, hcs⟩ := List.forall_mem_cons.mp hcs
    obtain ⟨hc', hcs'⟩ := List.forall_mem_cons.mp hcs'
    rw [digitWord_inj hc hc' hword.symm, ih hcs hcs' hrest.symm]

/-! ### Words of numbers -/

/-- A word that can stand among those of a natural number: it has no space in it, and it is
    neither the word for a minus sign nor the one for the point. -/
def IsNumberWord (w : String) : Prop :=
  ' ' ∉ w.toList ∧ w ≠ "minus" ∧ w ≠ "point"

instance : DecidablePred IsNumberWord :=
  fun _ => inferInstanceAs (Decidable (_ ∧ _ ∧ _))

theorem isNumberWord_of_mem_belowHundred : ∀ n < 100, ∀ w ∈ belowHundred n, IsNumberWord w := by
  decide +kernel

theorem isNumberWord_of_mem_belowThousand {n : Nat} (h : n < 1000) :
    ∀ w ∈ belowThousand n, IsNumberWord w := by
  intro w hw
  rcases List.mem_append.mp hw with hhundreds | hrest
  · by_cases hzero : n / 100 = 0
    · rw [if_pos hzero] at hhundreds
      exact absurd hhundreds List.not_mem_nil
    · rw [if_neg hzero] at hhundreds
      rcases List.mem_cons.mp hhundreds with hdigit | hhundred
      · -- the digit of the hundreds has the word that it has by itself
        apply isNumberWord_of_mem_belowHundred (n / 100) (by omega)
        rw [belowHundred, if_neg hzero, if_pos (by omega)]
        exact List.mem_singleton.mpr hdigit
      · rw [List.mem_singleton.mp hhundred]
        decide +kernel
  · exact isNumberWord_of_mem_belowHundred _ (Nat.mod_lt _ (by decide)) w hrest

theorem isNumberWord_of_mem_groups {names : List (List String)}
    (hnames : ∀ name ∈ names, ∀ w ∈ name, IsNumberWord w) :
    ∀ n, ∀ w ∈ groups names n, IsNumberWord w := by
  -- induction on the names: a word is in a higher group, in this one, or its name
  induction names with
  | nil => exact fun _ _ hw => absurd hw List.not_mem_nil
  | cons name names ih =>
    obtain ⟨hname, hhigher⟩ := List.forall_mem_cons.mp hnames
    intro n w hw
    rw [groups] at hw
    split at hw
    · exact absurd hw List.not_mem_nil
    · rcases List.mem_append.mp hw with habove | hgroup
      · exact ih hhigher _ w habove
      · split at hgroup
        · exact absurd hgroup List.not_mem_nil
        · rcases List.mem_append.mp hgroup with hdigits | hscale
          · exact isNumberWord_of_mem_belowThousand (Nat.mod_lt _ (by decide)) w hdigits
          · exact hname w hscale

theorem isNumberWord_of_mem_naturalWords {n : Nat} : ∀ w ∈ naturalWords n, IsNumberWord w := by
  unfold naturalWords
  split
  · decide +kernel
  · exact isNumberWord_of_mem_groups (by decide +kernel) n

theorem naturalWords_ne_nil {n : Nat} (h : n < 1000 ^ 7) : naturalWords n ≠ [] := by
  intro hnil
  have hread := natural?_naturalWords h
  rw [hnil] at hread
  cases hread

/-! ### Literals -/

inductive Sign where
  | none
  | plus
  | minus
  deriving DecidableEq

def Sign.chars : Sign → List Char
  | none => []
  | plus => ['+']
  | minus => ['-']

def Sign.signed : Sign → Nat → Int
  | minus, n => -(n : Int)
  | _, n => n

/-- A decimal literal: a sign, the digits of an integer of 64 bits, and digits behind a point
    if there is one. -/
structure Literal where
  sign : Sign
  whole : List Char
  /-- What stands behind the point, if there is a point. -/
  fraction : Option (List Char)
  whole_ne_nil : whole ≠ []
  isDigit_whole : ∀ c ∈ whole, c.isDigit = true
  isDigit_fraction : ∀ c ∈ fraction.getD [], c.isDigit = true
  fits : -2 ^ 63 ≤ sign.signed (Nat.ofDigitChars 10 whole 0) ∧
    sign.signed (Nat.ofDigitChars 10 whole 0) < 2 ^ 63

namespace Literal

def chars (l : Literal) : List Char :=
  l.sign.chars ++ l.whole ++
    match l.fraction with
    | some ds => '.' :: ds
    | none => []

def text (l : Literal) : String :=
  String.ofList l.chars

/-- The number that the digits in front of the point denote. -/
def magnitude (l : Literal) : Nat :=
  Nat.ofDigitChars 10 l.whole 0

def value (l : Literal) : Int :=
  l.sign.signed l.magnitude

def fractionDigits (l : Literal) : List Char :=
  l.fraction.getD []

def integerWords (l : Literal) : List String :=
  (if l.sign = .minus then ["minus"] else []) ++ naturalWords l.magnitude

/-- The words of the fraction, the word for the point in front of them. -/
def fractionWords (l : Literal) : List String :=
  if l.fractionDigits.isEmpty then [] else "point" :: l.fractionDigits.map digitWord

end Literal

/-- The sign in front of a text, and what follows. -/
theorem exists_sign (cs : List Char) :
    ∃ sign : Sign, ∃ rest, cs = sign.chars ++ rest ∧
      signed cs = (decide (sign = .minus), rest) := by
  unfold signed
  split
  · next rest => exact ⟨.minus, rest, rfl, rfl⟩
  · next rest => exact ⟨.plus, rest, rfl, rfl⟩
  · exact ⟨.none, cs, rfl, rfl⟩

/-- An integer of 64 bits in front of a point is a sign and digits. -/
theorem exists_digits_of_int64? {cs : List Char} {n : Int64} (h : int64? cs = some n) :
    ∃ sign : Sign, ∃ ds, cs = sign.chars ++ ds ∧ ds ≠ [] ∧ (∀ c ∈ ds, c.isDigit = true) ∧
      sign.signed (Nat.ofDigitChars 10 ds 0) = n.toInt := by
  obtain ⟨k, hk, hword⟩ := Option.bind_eq_some_iff.mp h
  obtain ⟨sign, ds, hcs, hsigned⟩ := exists_sign cs
  unfold integer? at hk
  rw [hsigned] at hk
  obtain ⟨m, hm, hvalue⟩ := Option.map_eq_some_iff.mp hk
  obtain ⟨hne, hdigits, hread⟩ := natural?_eq_some_iff.mp hm
  refine ⟨sign, ds, hcs, hne, hdigits, ?_⟩
  rw [← word?_eq_some_iff.mp hword, ← hvalue, hread]
  cases sign <;> rfl

namespace Literal

variable (l : Literal)

/-- The sign of a literal is told from its digits. -/
theorem signed_whole : signed (l.sign.chars ++ l.whole) = (decide (l.sign = .minus), l.whole) := by
  cases l.sign with
  | minus => rfl
  | plus => rfl
  | none =>
    have hsigned := signed_append l.whole_ne_nil l.isDigit_whole []
    rwa [List.append_nil] at hsigned

theorem int64?_whole :
    ∃ n, int64? (l.sign.chars ++ l.whole) = some n ∧ n.toInt = l.value := by
  have hread : natural? l.whole = some l.magnitude :=
    natural?_eq_some_iff.mpr ⟨l.whole_ne_nil, l.isDigit_whole, rfl⟩
  have hword : l.value = (Int64.ofInt l.value).toInt :=
    (Int64.toInt_ofInt_of_le l.fits.1 l.fits.2).symm
  have hvalue : (if decide (l.sign = .minus) = true then -(l.magnitude : Int) else l.magnitude) =
      l.value := by
    unfold value
    cases l.sign <;> rfl
  -- the value fits 64 bits, so the word that has it is the one that is read
  refine ⟨Int64.ofInt l.value, ?_, hword.symm⟩
  unfold int64? integer?
  rw [l.signed_whole]
  dsimp only
  rw [hread, Option.map_some, hvalue]
  exact word?_eq_some_iff.mpr hword

theorem ne_point_of_mem {c : Char} (h : c ∈ l.sign.chars ++ l.whole) : (c != '.') = true := by
  have hsign : ∀ sign : Sign, ∀ c ∈ sign.chars, (c != '.') = true := by
    intro sign
    cases sign <;> simp [Sign.chars]
  rcases List.mem_append.mp h with hmem | hmem
  · exact hsign l.sign c hmem
  · rw [bne_iff_ne]
    rintro rfl
    exact absurd (l.isDigit_whole _ hmem) (by decide)

/-- A literal is split at its point. -/
theorem split_chars :
    l.chars.takeWhile (· != '.') = l.sign.chars ++ l.whole ∧
      (l.chars.dropWhile (· != '.')).drop 1 = l.fractionDigits := by
  have hfront : ∀ c ∈ l.sign.chars ++ l.whole, (c != '.') = true := fun _ => l.ne_point_of_mem
  unfold chars fractionDigits
  rw [List.takeWhile_append_of_pos hfront, List.dropWhile_append_of_pos hfront]
  cases l.fraction with
  | none => simp
  | some ds => simp

/-- A minus sign is the first character of the literals that have it. -/
theorem head?_whole : (l.sign.chars ++ l.whole).head? = some '-' ↔ l.sign = .minus := by
  -- without a sign of its own a literal starts with a digit
  cases hsign : l.sign with
  | minus => simp [Sign.chars]
  | plus => simp [Sign.chars]
  | none =>
    obtain ⟨c, ds, hwhole⟩ := List.exists_cons_of_ne_nil l.whole_ne_nil
    have hc : c.isDigit = true := l.isDigit_whole c (hwhole ▸ List.mem_cons_self)
    have hne : c ≠ '-' := by
      rintro rfl
      exact absurd hc (by decide)
    simp [Sign.chars, hwhole, hne]

theorem natAbs_value : l.value.natAbs = l.magnitude := by
  unfold value
  cases l.sign <;> simp [Sign.signed]

/-- **The words of a literal**: those of its integer, and those of its fraction behind them. -/
theorem words?_chars : words? l.chars = some (l.integerWords ++ l.fractionWords) := by
  obtain ⟨hfront, hbehind⟩ := l.split_chars
  obtain ⟨n, hn, hvalue⟩ := l.int64?_whole
  have hdigits : digitWords? l.fractionDigits = some (l.fractionDigits.map digitWord) :=
    digitWords?_of_isDigit l.isDigit_fraction
  unfold words? integerWords fractionWords
  dsimp only
  rw [hfront, hbehind, hn, hdigits]
  dsimp only
  rw [hvalue, l.natAbs_value, List.isEmpty_map]
  simp only [l.head?_whole]

end Literal

/-- What has words is a literal. -/
theorem exists_literal {cs : List Char} {ws : List String} (h : words? cs = some ws) :
    ∃ l : Literal, l.chars = cs := by
  unfold words? at h
  dsimp only at h
  split at h
  · next n ds hn hds =>
    obtain ⟨sign, whole, hfront, hne, hwhole, hvalue⟩ := exists_digits_of_int64? hn
    have hfits : -2 ^ 63 ≤ sign.signed (Nat.ofDigitChars 10 whole 0) ∧
        sign.signed (Nat.ofDigitChars 10 whole 0) < 2 ^ 63 := by
      rw [hvalue]
      exact ⟨n.le_toInt, n.toInt_lt⟩
    have hsplit : cs.takeWhile (· != '.') ++ cs.dropWhile (· != '.') = cs :=
      List.takeWhile_append_dropWhile
    have hfraction := isDigit_of_digitWords? hds
    cases hrest : cs.dropWhile (· != '.') with
    | nil =>
      refine ⟨⟨sign, whole, none, hne, hwhole, by simp, hfits⟩, ?_⟩
      rw [← hsplit, hrest, hfront]
      rfl
    | cons c fraction =>
      -- what is dropped off starts with the point
      have hpoint : c = '.' := by
        have hhead := List.head?_dropWhile_not (· != '.') cs
        rw [hrest] at hhead
        simpa using hhead
      rw [hrest] at hfraction
      refine ⟨⟨sign, whole, some fraction, hne, hwhole, hfraction, hfits⟩, ?_⟩
      rw [← hsplit, hrest, hfront, hpoint]
      rfl
  · cases h

/-! ### Words in a spelling -/

/-- The words that stand between the spaces of a text. -/
def spokenWords (s : String) : List String :=
  (s.toList.splitOn ' ').map String.ofList

/-- The integer that the words in front of the point stand for. -/
def readInteger? (s : String) : Option Int :=
  NumberWords.integer? ((spokenWords s).takeWhile (· != "point"))

/-- Words that have no spaces in them are told apart again. -/
theorem spokenWords_intercalate {ws : List String} (hne : ws ≠ [])
    (h : ∀ w ∈ ws, ' ' ∉ w.toList) : spokenWords (" ".intercalate ws) = ws := by
  have hsplit : (" ".intercalate ws).toList.splitOn ' ' = ws.map String.toList := by
    rw [String.toList_intercalate]
    apply List.splitOn_intercalate ' '
    · intro cs hcs
      obtain ⟨w, hw, rfl⟩ := List.mem_map.mp hcs
      exact h w hw
    · simpa using hne
  rw [spokenWords, hsplit, List.map_map]
  simp

theorem space_notMem_digitWord {c : Char} (h : c.isDigit = true) :
    ' ' ∉ (digitWord c).toList := by
  have hspace : ∀ n < 10, ' ' ∉ (one n).toList := by decide +kernel
  obtain ⟨d, hd, -, hword⟩ := exists_digitWord_eq h
  rw [hword]
  exact hspace d hd

namespace Literal

variable (l l' : Literal)

def spelling : String :=
  " ".intercalate (l.integerWords ++ l.fractionWords)

theorem ofText?_text : ofText? l.text = some l.spelling := by
  rw [ofText?, text, String.toList_ofList, l.words?_chars]
  rfl

theorem magnitude_lt : l.magnitude < 1000 ^ 7 := by
  have hlow := l.fits.1
  have hhigh := l.fits.2
  rw [← l.natAbs_value, value, magnitude]
  omega

/-- The words of an integer have a word for a minus sign in front of number words. -/
theorem mem_integerWords {w : String} (h : w ∈ l.integerWords) :
    ' ' ∉ w.toList ∧ (w != "point") = true := by
  rcases List.mem_append.mp h with hsign | hnumber
  · have hminus : w = "minus" := by
      by_cases hneg : l.sign = .minus
      · rw [if_pos hneg] at hsign
        exact List.mem_singleton.mp hsign
      · rw [if_neg hneg] at hsign
        exact absurd hsign List.not_mem_nil
    rw [hminus]
    decide +kernel
  · obtain ⟨hspace, -, hpoint⟩ := isNumberWord_of_mem_naturalWords w hnumber
    exact ⟨hspace, bne_iff_ne.mpr hpoint⟩

theorem space_notMem_of_mem_fractionWords {w : String} (h : w ∈ l.fractionWords) :
    ' ' ∉ w.toList := by
  unfold fractionWords at h
  split at h
  · exact absurd h List.not_mem_nil
  · rcases List.mem_cons.mp h with hpoint | hdigit
    · rw [hpoint]
      decide +kernel
    · obtain ⟨c, hc, rfl⟩ := List.mem_map.mp hdigit
      exact space_notMem_digitWord (l.isDigit_fraction c hc)

theorem integerWords_ne_nil : l.integerWords ≠ [] :=
  List.append_ne_nil_of_right_ne_nil _ (naturalWords_ne_nil l.magnitude_lt)

/-- The words of a spelling are those that it was made of. -/
theorem spokenWords_spelling : spokenWords l.spelling = l.integerWords ++ l.fractionWords := by
  apply spokenWords_intercalate
  · exact List.append_ne_nil_of_left_ne_nil l.integerWords_ne_nil _
  · intro w hw
    rcases List.mem_append.mp hw with hinteger | hfraction
    · exact (l.mem_integerWords hinteger).1
    · exact l.space_notMem_of_mem_fractionWords hfraction

/-- The word for the point separates the words of the integer from those of the fraction. -/
theorem split_words :
    (l.integerWords ++ l.fractionWords).takeWhile (· != "point") = l.integerWords ∧
      (l.integerWords ++ l.fractionWords).dropWhile (· != "point") = l.fractionWords := by
  have hfront : ∀ w ∈ l.integerWords, (w != "point") = true :=
    fun _ hw => (l.mem_integerWords hw).2
  -- the words of a fraction start with the word for the point, if there are any
  have hbehind : l.fractionWords.takeWhile (· != "point") = [] ∧
      l.fractionWords.dropWhile (· != "point") = l.fractionWords := by
    unfold fractionWords
    split
    · exact ⟨rfl, rfl⟩
    · exact ⟨rfl, rfl⟩
  rw [List.takeWhile_append_of_pos hfront, List.dropWhile_append_of_pos hfront, hbehind.1,
    hbehind.2, List.append_nil]
  exact ⟨rfl, rfl⟩

/-- The word for the minus sign is in front of the literals that have the sign, and no number
    is spelled with it. -/
theorem head?_integerWords : l.integerWords.head? = some "minus" ↔ l.sign = .minus := by
  by_cases hneg : l.sign = .minus
  · simp [integerWords, hneg]
  · have hhead : (naturalWords l.magnitude).head? ≠ some "minus" := by
      intro hminus
      exact (isNumberWord_of_mem_naturalWords _ (List.mem_of_head? hminus)).2.1 rfl
    simp [integerWords, hneg, hhead]

/-- The words of an integer stand for it. -/
theorem integer?_integerWords : NumberWords.integer? l.integerWords = some l.value := by
  have hread : NumberWords.natural? (naturalWords l.magnitude) = some l.magnitude :=
    natural?_naturalWords l.magnitude_lt
  have hhead := l.head?_integerWords
  unfold NumberWords.integer?
  by_cases hneg : l.sign = .minus
  · have htail : l.integerWords.tail = naturalWords l.magnitude := by
      rw [integerWords, if_pos hneg]
      rfl
    rw [if_pos (hhead.mpr hneg), htail, hread, value, hneg]
    rfl
  · -- a plus sign is not spelled
    have hvalue : l.value = l.magnitude := by
      unfold value
      cases hsign : l.sign with
      | minus => exact absurd hsign hneg
      | plus => rfl
      | none => rfl
    rw [if_neg (mt hhead.mp hneg), integerWords, if_neg hneg, List.nil_append, hread, hvalue]
    rfl

theorem readInteger?_spelling : readInteger? l.spelling = some l.value := by
  rw [readInteger?, l.spokenWords_spelling, l.split_words.1, l.integer?_integerWords]

/-- The words of the fraction tell its digits. -/
theorem fractionWords_inj (h : l.fractionWords = l'.fractionWords) :
    l.fractionDigits = l'.fractionDigits := by
  unfold fractionWords at h
  -- whether there are digits is told by the word for the point
  by_cases hnone : l.fractionDigits = []
  · by_cases hnone' : l'.fractionDigits = []
    · rw [hnone, hnone']
    · simp [hnone, hnone'] at h
  · by_cases hnone' : l'.fractionDigits = []
    · simp [hnone, hnone'] at h
    · have hdigits : l.fractionDigits.map digitWord = l'.fractionDigits.map digitWord := by
        simpa [hnone, hnone'] using h
      exact map_digitWord_inj l.isDigit_fraction l'.isDigit_fraction hdigits

/-- Literals with one spelling are alike in all that is spelled. -/
theorem alike_of_spelling_eq (h : l.spelling = l'.spelling) :
    (l.sign = .minus ↔ l'.sign = .minus) ∧ l.value = l'.value ∧
      l.fractionDigits = l'.fractionDigits := by
  -- both spellings are cut into the same words, and these at the same point
  have hwords : l.integerWords ++ l.fractionWords = l'.integerWords ++ l'.fractionWords := by
    rw [← l.spokenWords_spelling, h, l'.spokenWords_spelling]
  have hinteger : l.integerWords = l'.integerWords := by
    rw [← l.split_words.1, hwords, l'.split_words.1]
  have hfraction : l.fractionWords = l'.fractionWords := by
    rw [← l.split_words.2, hwords, l'.split_words.2]
  have hvalue : some l.value = some l'.value := by
    rw [← l.integer?_integerWords, hinteger, l'.integer?_integerWords]
  refine ⟨?_, Option.some.inj hvalue, fractionWords_inj l l' hfraction⟩
  rw [← l.head?_integerWords, hinteger, l'.head?_integerWords]

/-- Literals that are alike in all that is spelled have one spelling. -/
theorem spelling_eq_of_alike (hsign : l.sign = .minus ↔ l'.sign = .minus)
    (hvalue : l.value = l'.value) (hfraction : l.fractionDigits = l'.fractionDigits) :
    l.spelling = l'.spelling := by
  have hmagnitude : l.magnitude = l'.magnitude := by
    rw [← l.natAbs_value, hvalue, l'.natAbs_value]
  have hinteger : l.integerWords = l'.integerWords := by
    simp only [integerWords, hsign, hmagnitude]
  rw [spelling, spelling, hinteger, fractionWords, fractionWords, hfraction]

end Literal

/-- The spelling of a decimal text, if the tables have the words for it. -/
def checkedText (s : String) : Option (Option String) :=
  (checkedWords s.toList).map fun ws? => ws?.map (String.intercalate " ")

/-- **A spelling tells its number.** What is spelled is just the decimal literals, and no
    table is left on any text. Two literals have one spelling if and only if they are alike
    in the minus sign, the integer and the digits behind the point, and the words in front of
    the point are those of the integer. -/
theorem spelling_tells_number :
    (∀ s, (∃ spelling, ofText? s = some spelling) ↔ ∃ l : Literal, l.text = s) ∧
      (∀ s, checkedText s = some (ofText? s)) ∧
      (∀ l l' : Literal, ofText? l.text = ofText? l'.text ↔
        (l.sign = .minus ↔ l'.sign = .minus) ∧ l.value = l'.value ∧
          l.fractionDigits = l'.fractionDigits) ∧
      ∀ l : Literal, ∃ spelling,
        ofText? l.text = some spelling ∧ readInteger? spelling = some l.value := by
  -- what is spelled, that no table is left, when spellings agree, and what they are read as
  refine ⟨?_, ?_, ?_, ?_⟩
  · intro s
    constructor
    · intro ⟨spelling, hspelling⟩
      obtain ⟨ws, hws, -⟩ := Option.map_eq_some_iff.mp hspelling
      obtain ⟨l, hl⟩ := exists_literal hws
      exact ⟨l, by rw [Literal.text, hl, String.ofList_toList]⟩
    · intro ⟨l, hl⟩
      exact ⟨l.spelling, hl ▸ l.ofText?_text⟩
  · intro s
    rw [checkedText, checkedWords_eq]
    rfl
  · intro l l'
    rw [l.ofText?_text, l'.ofText?_text, Option.some_inj]
    constructor
    · exact l.alike_of_spelling_eq l'
    · intro ⟨hsign, hvalue, hfraction⟩
      exact l.spelling_eq_of_alike l' hsign hvalue hfraction
  · intro l
    exact ⟨l.spelling, l.ofText?_text, l.readInteger?_spelling⟩

example : (ofText? "-42.50").bind readInteger? = some (-42) := by
  decide +kernel

end Spellout

end Phrasebook
