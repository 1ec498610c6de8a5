import Phrasebook.Power

/-! # Decimal digits

    Reading and writing natural numbers and machine integers in base ten, and
    padding a run of digits to a width.
-/

namespace Phrasebook.Text

/-- The value of one of the ten ASCII digits. -/
def digit? (c : Char) : Option Nat :=
  if c.isDigit then some (c.toNat - '0'.toNat) else none

/-- The number that a run of ASCII digits denotes; none for an empty run or a foreign character. -/
def natural? (cs : List Char) : Option Nat :=
  if cs.isEmpty || !cs.all Char.isDigit then none else some (Nat.ofDigitChars 10 cs 0)

/-- The digits of a natural number, without leading zeros. -/
def digits (n : Nat) : List Char :=
  Nat.toDigits 10 n

def zeroPadded (width n : Nat) : List Char :=
  (digits n).leftpad width '0'

/-- A number without the zeros at the end of its decimal digits. -/
def withoutTrailingZeros (n : Nat) : Nat :=
  if n = 0 then 0
  else if n % 10 = 0 then withoutTrailingZeros (n / 10)
  else n
termination_by n
decreasing_by omega

def integerChars (n : Int) : List Char :=
  if n < 0 then '-' :: digits n.natAbs else digits n.natAbs

def integerText (n : Int) : String :=
  String.ofList (integerChars n)

/-- The sign in front of a numeral: whether it is a minus, and what follows. -/
def signed : List Char → Bool × List Char
  | '-' :: cs => (true, cs)
  | '+' :: cs => (false, cs)
  | cs => (false, cs)

/-- The integer that an optional sign and a run of ASCII digits denote. -/
def integer? (cs : List Char) : Option Int :=
  let (negative, rest) := signed cs
  (natural? rest).map fun (n : Nat) => if negative then -(n : Int) else (n : Int)

/-- A 64-bit integer that has a given value, if there is one. -/
def word? (n : Int) : Option Int64 :=
  if -2 ^ 63 ≤ n ∧ n < 2 ^ 63 then some (Int64.ofInt n) else none

/-- The 64-bit integer that a text denotes: an optional sign and ASCII digits, within range. -/
def int64? (cs : List Char) : Option Int64 :=
  (integer? cs).bind word?

theorem isDigit_of_mem_digits {n : Nat} {c : Char} (h : c ∈ digits n) : c.isDigit = true :=
  Nat.isDigit_of_mem_toDigits (b := 10) (n := n) (by decide) (by decide) h

theorem digits_ne_nil (n : Nat) : digits n ≠ [] := by
  simp [digits]

theorem natural?_digits (n : Nat) : natural? (digits n) = some n := by
  have hd : (digits n).all Char.isDigit = true :=
    List.all_eq_true.mpr fun c hc => isDigit_of_mem_digits hc
  have hv : Nat.ofDigitChars 10 (digits n) 0 = n := Nat.ofDigitChars_ten_toDigits
  simp [natural?, hd, hv, digits_ne_nil]

theorem isDigit_of_mem_zeroPadded {width n : Nat} {c : Char} (h : c ∈ zeroPadded width n) :
    c.isDigit = true := by
  rcases List.mem_append.mp h with hzero | hdigit
  · rw [List.eq_of_mem_replicate hzero]
    rfl
  · exact isDigit_of_mem_digits hdigit

theorem length_zeroPadded {width n : Nat} (hwidth : 0 < width) (h : n < 10 ^ width) :
    (zeroPadded width n).length = width := by
  have hdigits : (digits n).length ≤ width :=
    (Nat.length_toDigits_le_iff (by decide) hwidth).mpr h
  rw [zeroPadded, List.length_leftpad]
  omega

/-- What has a character in it that is no digit is no number. -/
theorem natural?_of_mem {cs : List Char} {c : Char} (h : c ∈ cs) (hc : c.isDigit = false) :
    natural? cs = none := by
  have hall : cs.all Char.isDigit = false := List.all_eq_false.mpr ⟨c, h, by simp [hc]⟩
  simp [natural?, hall]

theorem natural?_zeroPadded (width n : Nat) : natural? (zeroPadded width n) = some n := by
  have hdigits : (zeroPadded width n).all Char.isDigit = true :=
    List.all_eq_true.mpr fun c hc => isDigit_of_mem_zeroPadded hc
  have hnonempty : zeroPadded width n ≠ [] :=
    List.append_ne_nil_of_right_ne_nil _ (digits_ne_nil n)
  have hvalue : Nat.ofDigitChars 10 (zeroPadded width n) 0 = n := by
    rw [zeroPadded, List.leftpad, Nat.ofDigitChars_append, Nat.ofDigitChars_replicate_zero,
      Nat.mul_zero]
    exact Nat.ofDigitChars_ten_toDigits
  simp [natural?, hdigits, hnonempty, hvalue]

/-- A text that starts with a run of digits carries no sign. -/
theorem signed_append {ds : List Char} (hne : ds ≠ []) (hds : ∀ c ∈ ds, c.isDigit = true)
    (cs : List Char) : signed (ds ++ cs) = (false, ds ++ cs) := by
  obtain ⟨d, ds, rfl⟩ := List.exists_cons_of_ne_nil hne
  have hd : d.isDigit = true := hds d List.mem_cons_self
  rw [List.cons_append]
  unfold signed
  split
  · next heq => simp at heq; simp [heq.1] at hd
  · next heq => simp at heq; simp [heq.1] at hd
  · rfl

theorem signed_digits (n : Nat) : signed (digits n) = (false, digits n) := by
  have hsigned := signed_append (digits_ne_nil n) (fun _ hc => isDigit_of_mem_digits hc) []
  rwa [List.append_nil] at hsigned

/-- The decimal text of an integer consists of digits, after a minus sign if there is one. -/
theorem mem_integerChars {n : Int} {c : Char} (h : c ∈ integerChars n) :
    c = '-' ∨ c.isDigit = true := by
  rw [integerChars] at h
  split at h
  · rcases List.mem_cons.mp h with hc | hc
    · exact Or.inl hc
    · exact Or.inr (isDigit_of_mem_digits hc)
  · exact Or.inr (isDigit_of_mem_digits h)

/-- Behind its first character there are only digits. -/
theorem isDigit_of_mem_drop_integerChars {n : Int} {k : Nat} {c : Char}
    (h : c ∈ (integerChars n).drop (k + 1)) : c.isDigit = true := by
  rw [integerChars] at h
  split at h
  · exact isDigit_of_mem_digits (List.mem_of_mem_drop h)
  · exact isDigit_of_mem_digits (List.mem_of_mem_drop h)

theorem integer?_integerChars (n : Int) : integer? (integerChars n) = some n := by
  by_cases h : n < 0
  · have hn : -(n.natAbs : Int) = n := by omega
    rw [integerChars, if_pos h]
    show (natural? (digits n.natAbs)).map (fun k : Nat => -(k : Int)) = some n
    rw [natural?_digits, Option.map_some, hn]
  · have hn : (n.natAbs : Int) = n := by omega
    rw [integerChars, if_neg h, integer?, signed_digits]
    show (natural? (digits n.natAbs)).map (fun k : Nat => (k : Int)) = some n
    rw [natural?_digits, Option.map_some, hn]

theorem word?_toInt (n : Int64) : word? n.toInt = some n := by
  rw [word?, if_pos ⟨n.le_toInt, n.toInt_lt⟩, Int64.ofInt_toInt]

theorem word?_eq_some_iff {n : Int} {w : Int64} : word? n = some w ↔ n = w.toInt := by
  constructor
  · intro h
    unfold word? at h
    split at h
    · next hrange =>
      rw [← Option.some.inj h, Int64.toInt_ofInt_of_le hrange.1 hrange.2]
    · cases h
  · rintro rfl
    exact word?_toInt w

theorem int64?_integerChars (n : Int64) : int64? (integerChars n.toInt) = some n := by
  simp [int64?, integer?_integerChars, word?_toInt]

end Phrasebook.Text
