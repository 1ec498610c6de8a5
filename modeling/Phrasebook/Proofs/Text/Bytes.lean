/-! # Places counted in bytes

    A place in a text can be counted in the bytes that stand before it. Not every count is
    a place: inside a character of several bytes a text cannot be cut. The count of a
    character that was found is one, and so is the next count behind a character of a
    single byte.
-/

namespace Phrasebook.Text

def byteCount : List Char → Nat
  | [] => 0
  | c :: cs => c.utf8Size + byteCount cs

/-- What stands before and behind a place; none if the place is inside a character or
    behind the end. -/
def cutAtByte? (n : Nat) : List Char → Option (List Char × List Char)
  | [] => if n = 0 then some ([], []) else none
  | c :: cs =>
    if n = 0 then some ([], c :: cs)
    else if c.utf8Size ≤ n then
      (cutAtByte? (n - c.utf8Size) cs).map fun (before, behind) => (c :: before, behind)
    else none

/-- The place of the first character of a kind. -/
def firstByte? (p : Char → Bool) : List Char → Option Nat
  | [] => none
  | c :: cs => if p c then some 0 else (firstByte? p cs).map (c.utf8Size + ·)

/-- The place of the last character of a kind. -/
def lastByte? (p : Char → Bool) : List Char → Option Nat
  | [] => none
  | c :: cs =>
    match lastByte? p cs with
    | some n => some (c.utf8Size + n)
    | none => if p c then some 0 else none

@[simp] theorem byteCount_nil : byteCount [] = 0 := rfl

@[simp] theorem byteCount_cons (c : Char) (cs : List Char) :
    byteCount (c :: cs) = c.utf8Size + byteCount cs := rfl

@[simp] theorem byteCount_append (cs ds : List Char) :
    byteCount (cs ++ ds) = byteCount cs + byteCount ds := by
  induction cs with
  | nil => exact (Nat.zero_add _).symm
  | cons c cs ih => rw [List.cons_append, byteCount_cons, byteCount_cons, ih, Nat.add_assoc]

theorem cutAtByte?_append (before behind : List Char) :
    cutAtByte? (byteCount before) (before ++ behind) = some (before, behind) := by
  induction before with
  | nil => cases behind <;> rfl
  | cons c cs ih =>
    -- a character has at least one byte, so the count is not used up before the last one
    have hpos := c.utf8Size_pos
    have hne : byteCount (c :: cs) ≠ 0 := by
      rw [byteCount_cons]
      omega
    have hfits : c.utf8Size ≤ byteCount (c :: cs) := Nat.le_add_right _ _
    have hrest : byteCount (c :: cs) - c.utf8Size = byteCount cs := Nat.add_sub_cancel_left _ _
    rw [List.cons_append, cutAtByte?, if_neg hne, if_pos hfits, hrest, ih]
    rfl

/-- **A text can be cut just behind its parts**, at the count of their bytes. -/
theorem cutAtByte?_eq_some_iff {n : Nat} {cs before behind : List Char} :
    cutAtByte? n cs = some (before, behind) ↔ cs = before ++ behind ∧ byteCount before = n := by
  constructor
  · intro h
    induction cs generalizing n before with
    | nil =>
      unfold cutAtByte? at h
      split at h
      · next hn =>
        obtain ⟨rfl, rfl⟩ := Prod.mk.inj (Option.some.inj h)
        exact ⟨rfl, hn.symm⟩
      · cases h
    | cons c cs ih =>
      unfold cutAtByte? at h
      split at h
      · next hn =>
        obtain ⟨rfl, rfl⟩ := Prod.mk.inj (Option.some.inj h)
        exact ⟨rfl, hn.symm⟩
      · split at h
        · next hfits =>
          obtain ⟨⟨start, rest⟩, hcut, hparts⟩ := Option.map_eq_some_iff.mp h
          obtain ⟨rfl, rfl⟩ := Prod.mk.inj hparts
          obtain ⟨rfl, hcount⟩ := ih hcut
          refine ⟨rfl, ?_⟩
          rw [byteCount_cons, hcount, Nat.add_sub_cancel' hfits]
        · cases h
  · rintro ⟨rfl, rfl⟩
    exact cutAtByte?_append before behind

section
variable {p : Char → Bool} {before behind : List Char} {c : Char}

theorem firstByte?_append (hbefore : ∀ d ∈ before, p d = false) (hc : p c = true) :
    firstByte? p (before ++ c :: behind) = some (byteCount before) := by
  induction before with
  | nil => simp [firstByte?, hc]
  | cons d ds ih =>
    obtain ⟨hd, hds⟩ := List.forall_mem_cons.mp hbefore
    simp [firstByte?, hd, ih hds]

theorem lastByte?_append (hc : p c = true) (hbehind : lastByte? p behind = none) :
    lastByte? p (before ++ c :: behind) = some (byteCount before) := by
  induction before with
  | nil => simp [lastByte?, hc, hbehind]
  | cons d ds ih => simp [lastByte?, ih]

theorem firstByte?_eq_none {cs : List Char} (h : ∀ d ∈ cs, p d = false) :
    firstByte? p cs = none := by
  induction cs with
  | nil => rfl
  | cons d ds ih =>
    obtain ⟨hd, hds⟩ := List.forall_mem_cons.mp h
    simp [firstByte?, hd, ih hds]

theorem lastByte?_eq_none {cs : List Char} (h : ∀ d ∈ cs, p d = false) :
    lastByte? p cs = none := by
  induction cs with
  | nil => rfl
  | cons d ds ih =>
    obtain ⟨hd, hds⟩ := List.forall_mem_cons.mp h
    simp [lastByte?, hd, ih hds]

end

end Phrasebook.Text
