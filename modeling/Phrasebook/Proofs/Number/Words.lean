import Phrasebook.Number.Spellout

/-! # English number words read back

    A reader of English number words that knows nothing of how they are put together:
    it goes through the words with a total and the group that it is in, and a word
    adds to the group, takes it a hundred times, or closes it with a power of a thousand.

    The words that a natural number is spelled with are read as this number, by groups
    of three digits from the highest one down. Groups of zero are silent and change nothing.
-/

namespace Phrasebook

/-! ### The reader -/

namespace NumberWords

/-- The words that stand for a number by themselves. -/
def cardinals : List (String × Nat) :=
  [("zero", 0), ("one", 1), ("two", 2), ("three", 3), ("four", 4), ("five", 5), ("six", 6),
    ("seven", 7), ("eight", 8), ("nine", 9), ("ten", 10), ("eleven", 11), ("twelve", 12),
    ("thirteen", 13), ("fourteen", 14), ("fifteen", 15), ("sixteen", 16), ("seventeen", 17),
    ("eighteen", 18), ("nineteen", 19), ("twenty", 20), ("thirty", 30), ("forty", 40),
    ("fifty", 50), ("sixty", 60), ("seventy", 70), ("eighty", 80), ("ninety", 90)]

/-- The words that close a group. -/
def powers : List (String × Nat) :=
  [("thousand", 10 ^ 3), ("million", 10 ^ 6), ("billion", 10 ^ 9), ("trillion", 10 ^ 12),
    ("quadrillion", 10 ^ 15), ("quintillion", 10 ^ 18)]

/-- The number that a word stands for: one of the cardinals, or tens and units with a hyphen
    between them. -/
def cardinal? (w : String) : Option Nat :=
  match (w.toList.splitOn '-').map fun cs => cardinals.lookup (String.ofList cs) with
  | [some n] => some n
  | [some tens, some units] =>
    if 20 ≤ tens ∧ tens % 10 = 0 ∧ 1 ≤ units ∧ units ≤ 9 then some (tens + units) else none
  | _ => none

/-- What has been read so far. -/
structure Count where
  /-- The groups that are closed. -/
  total : Nat
  /-- The group that is being read. -/
  group : Nat
  deriving DecidableEq, Repr

def step (s : Count) (w : String) : Option Count :=
  match cardinal? w with
  | some n => some ⟨s.total, s.group + n⟩
  | none =>
    if w = "hundred" then some ⟨s.total, s.group * 100⟩
    else (powers.lookup w).map fun p => ⟨s.total + s.group * p, 0⟩

/-- Read words one after another. -/
def readOn (s : Count) (ws : List String) : Option Count :=
  ws.foldlM step s

/-- The natural number that words stand for. -/
def natural? (ws : List String) : Option Nat :=
  if ws.isEmpty then none else (readOn ⟨0, 0⟩ ws).map fun s => s.total + s.group

/-- The integer that words stand for, with the word for a minus sign in front of a negative one. -/
def integer? (ws : List String) : Option Int :=
  if ws.head? = some "minus" then (natural? ws.tail).map fun n => -(n : Int)
  else (natural? ws).map fun n => (n : Int)

theorem readOn_nil (s : Count) : readOn s [] = some s := rfl

theorem readOn_singleton (s : Count) (w : String) : readOn s [w] = step s w := by
  simp [readOn]

theorem readOn_append {s s' : Count} {ws : List String} (h : readOn s ws = some s')
    (ws' : List String) : readOn s (ws ++ ws') = readOn s' ws' := by
  have h : ws.foldlM step s = some s' := h
  rw [readOn, List.foldlM_append, h]
  rfl

end NumberWords

namespace Spellout

open NumberWords

/-! ### Words that are read back -/

theorem cardinal?_belowHundred : ∀ n < 100, n ≠ 0 →
    (belowHundred n).map cardinal? = [some n] := by
  decide +kernel

/-- The word of a number below a hundred adds the number to the group. -/
theorem readOn_belowHundred {n : Nat} (h : n < 100) (total group : Nat) :
    readOn ⟨total, group⟩ (belowHundred n) = some ⟨total, group + n⟩ := by
  by_cases hzero : n = 0
  · rw [hzero]
    rfl
  · have hword := cardinal?_belowHundred n h hzero
    obtain ⟨w, hw, hcardinal⟩ := List.map_eq_singleton_iff.mp hword
    rw [hw, readOn_singleton, step, hcardinal]

/-- The words of a number below a thousand make a group of it. -/
theorem readOn_belowThousand {n : Nat} (h : n < 1000) (total : Nat) :
    readOn ⟨total, 0⟩ (belowThousand n) = some ⟨total, n⟩ := by
  have hrest : n % 100 < 100 := Nat.mod_lt _ (by decide)
  unfold belowThousand
  by_cases hzero : n / 100 = 0
  · have hn : 0 + n % 100 = n := by omega
    rw [if_pos hzero, List.nil_append, readOn_belowHundred hrest, hn]
  · -- the digit of the hundreds is read first and taken a hundred times
    have hdigit : belowHundred (n / 100) = [one (n / 100)] := by
      have hsmall : n / 100 < 20 := by omega
      rw [belowHundred, if_neg hzero, if_pos hsmall]
    have hone : readOn ⟨total, 0⟩ [one (n / 100)] = some ⟨total, 0 + n / 100⟩ := by
      rw [← hdigit]
      exact readOn_belowHundred (by omega) total 0
    have hfront : readOn ⟨total, 0⟩ [one (n / 100), "hundred"] =
        some ⟨total, (0 + n / 100) * 100⟩ := by
      have hcardinal : cardinal? "hundred" = none := by decide +kernel
      show readOn ⟨total, 0⟩ ([one (n / 100)] ++ ["hundred"]) = _
      rw [readOn_append hone, readOn_singleton, step, hcardinal]
      rfl
    have hn : (0 + n / 100) * 100 + n % 100 = n := by omega
    rw [if_neg hzero, readOn_append hfront, readOn_belowHundred hrest, hn]

/-! ### Groups of three digits -/

/-- The names of scales count a power and the powers of a thousand above it: such a name
    closes the group with its power. -/
def CountFrom : Nat → List (List String) → Prop
  | _, [] => True
  | power, name :: names =>
    (∀ s, readOn s name = some ⟨s.total + s.group * power, 0⟩) ∧ CountFrom (1000 * power) names

theorem countFrom_thousand : CountFrom 1000 (scales.drop 1) := by
  -- a name of a power is no cardinal and not the hundred, so it closes the group
  have hname : ∀ (w : String) (power : Nat), cardinal? w = none → w ≠ "hundred" →
      powers.lookup w = some power →
      ∀ s, readOn s [w] = some ⟨s.total + s.group * power, 0⟩ := by
    intro w power hcardinal hhundred hpower s
    rw [readOn_singleton, step, hcardinal]
    show (if w = "hundred" then _ else _) = _
    rw [if_neg hhundred, hpower]
    rfl
  refine ⟨?_, ?_, ?_, ?_, ?_, ?_, trivial⟩
  · exact hname "thousand" _ (by decide +kernel) (by decide) (by decide)
  · exact hname "million" _ (by decide +kernel) (by decide) (by decide)
  · exact hname "billion" _ (by decide +kernel) (by decide) (by decide)
  · exact hname "trillion" _ (by decide +kernel) (by decide) (by decide)
  · exact hname "quadrillion" _ (by decide +kernel) (by decide) (by decide)
  · exact hname "quintillion" _ (by decide +kernel) (by decide) (by decide)

/-- One more group below groups that have been read. -/
theorem readOn_group {words scale : List String} {higher n : Nat} {s' : Count}
    (hhigher : readOn ⟨0, 0⟩ words = some ⟨higher, 0⟩)
    (hscale : n % 1000 ≠ 0 → readOn ⟨higher, n % 1000⟩ scale = some s')
    (hsilent : n % 1000 = 0 → s' = ⟨higher, 0⟩) :
    readOn ⟨0, 0⟩
      (words ++ if n % 1000 = 0 then [] else belowThousand (n % 1000) ++ scale) = some s' := by
  have hgroup : n % 1000 < 1000 := Nat.mod_lt _ (by decide)
  by_cases hzero : n % 1000 = 0
  · rw [if_pos hzero, List.append_nil, hhigher, hsilent hzero]
  · rw [if_neg hzero, readOn_append hhigher, readOn_append (readOn_belowThousand hgroup higher),
      hscale hzero]

/-- **Groups are read back.** By induction on the scales: the groups above have been read as
    a multiple of the next power when the lowest one is reached. -/
theorem readOn_groups {names : List (List String)} {power : Nat} (hnames : CountFrom power names) :
    ∀ n < 1000 ^ names.length, readOn ⟨0, 0⟩ (groups names n) = some ⟨n * power, 0⟩ := by
  -- induction on the names: what is above the lowest group is read with the next power
  induction names generalizing power with
  | nil =>
    intro n hn
    have hzero : n = 0 := by simpa using hn
    rw [hzero, Nat.zero_mul]
    rfl
  | cons name names ih =>
    intro n hn
    obtain ⟨hname, hhigher⟩ := hnames
    by_cases hzero : n = 0
    · rw [hzero, Nat.zero_mul]
      rfl
    · have hdiv : n / 1000 < 1000 ^ names.length := by
        rw [List.length_cons, Nat.pow_succ] at hn
        omega
      -- the groups above are a thousand times their value, with the lowest group added
      have hsum : n / 1000 * (1000 * power) + n % 1000 * power = n * power := by
        rw [← Nat.mul_assoc, ← Nat.add_mul, Nat.div_add_mod']
      rw [groups, if_neg hzero]
      apply readOn_group (ih hhigher (n / 1000) hdiv)
      · intro _
        rw [hname, hsum]
      · intro hsilent
        rw [hsilent, Nat.zero_mul, Nat.add_zero] at hsum
        rw [hsum]

/-- **Number words stand for their number**, up to twenty-one digits. -/
theorem natural?_naturalWords {n : Nat} (h : n < 1000 ^ 7) :
    NumberWords.natural? (naturalWords n) = some n := by
  by_cases hzero : n = 0
  · rw [hzero]
    decide +kernel
  · -- the lowest group has no scale, and stays open to the end
    have hread : readOn ⟨0, 0⟩ (naturalWords n) = some ⟨n / 1000 * 1000, n % 1000⟩ := by
      have hwords : naturalWords n = groups (scales.drop 1) (n / 1000) ++
          if n % 1000 = 0 then [] else belowThousand (n % 1000) ++ [] := by
        rw [naturalWords, if_neg hzero, scales, groups, if_neg hzero]
        rfl
      rw [hwords]
      apply readOn_group (readOn_groups countFrom_thousand (n / 1000) ?_)
      · intro _
        rw [readOn_nil]
      · intro hsilent
        rw [hsilent]
      · show n / 1000 < 1000 ^ 6
        omega
    have hne : (naturalWords n).isEmpty = false := by
      rw [List.isEmpty_eq_false_iff]
      intro hempty
      rw [hempty, readOn_nil] at hread
      obtain ⟨htotal, hgroup⟩ := Count.mk.inj (Option.some.inj hread)
      omega
    rw [NumberWords.natural?, hne, hread]
    show some (n / 1000 * 1000 + n % 1000) = some n
    rw [Nat.div_add_mod']

end Spellout

end Phrasebook
