/-! # Tables keyed by text

    A table is a list of keys with their entries, each key once, in ascending
    order of the keys. Texts are compared code point by code point. Members of a
    JSON object and branches of a choice are kept in tables, so walking a table
    meets its keys in a fixed order.
-/

namespace Phrasebook

/-- A list of keys with entries. Those built by `Table.insert` are ascending. -/
abbrev Table (α : Type) := List (String × α)

namespace Table

variable {α : Type}

/-- The keys are strictly ascending, hence each occurs once. -/
def Ascending (t : Table α) : Prop :=
  t.Pairwise fun a b => a.1 < b.1

@[simp] theorem ascending_nil : Ascending ([] : Table α) :=
  List.Pairwise.nil

/-- Put an entry under a key, in place of the entry that was there. -/
def insert (key : String) (entry : α) : Table α → Table α
  | [] => [(key, entry)]
  | (k, e) :: t =>
    if key < k then (key, entry) :: (k, e) :: t
    else if key = k then (key, entry) :: t
    else (k, e) :: insert key entry t

/-- The table of a list of entries; of two entries with one key the later stays. -/
def ofList (entries : List (String × α)) : Table α :=
  entries.foldl (fun t e => insert e.1 e.2 t) []

/-- The entries after an insertion are the one inserted and those before. -/
theorem mem_insert {key : String} {entry : α} {t : Table α} {b : String × α}
    (h : b ∈ insert key entry t) : b = (key, entry) ∨ b ∈ t := by
  induction t with
  | nil => exact Or.inl (List.mem_singleton.mp h)
  | cons head t ih =>
    obtain ⟨k, e⟩ := head
    rw [insert] at h
    split at h
    · exact List.mem_cons.mp h
    · split at h
      · rcases List.mem_cons.mp h with hb | hb
        · exact Or.inl hb
        · exact Or.inr (List.mem_cons_of_mem _ hb)
      · rcases List.mem_cons.mp h with hb | hb
        · exact Or.inr (hb ▸ List.mem_cons_self)
        · rcases ih hb with hb | hb
          · exact Or.inl hb
          · exact Or.inr (List.mem_cons_of_mem _ hb)

theorem ascending_insert {key : String} {entry : α} {t : Table α} (h : Ascending t) :
    Ascending (insert key entry t) := by
  induction t with
  | nil => simp [insert, Ascending]
  | cons head t ih =>
    obtain ⟨k, e⟩ := head
    obtain ⟨hk, ht⟩ := List.pairwise_cons.mp h
    simp only [insert]
    split
    · next hlt =>
      refine List.pairwise_cons.mpr ⟨?_, h⟩
      intro b hb
      rcases List.mem_cons.mp hb with rfl | hb
      · exact hlt
      · exact String.lt_trans hlt (hk b hb)
    · next hlt =>
      split
      · next heq => subst heq; exact List.pairwise_cons.mpr ⟨hk, ht⟩
      · next hne =>
        refine List.pairwise_cons.mpr ⟨?_, ih ht⟩
        rintro ⟨k', e'⟩ hb
        rcases mem_insert hb with hb | hb
        · -- the entry put in keeps its place behind the head, as its key is neither less nor
          -- equal
          cases hb
          exact Decidable.byContradiction fun hge =>
            hne (String.le_antisymm (String.not_lt.mp hge) (String.not_lt.mp hlt))
        · exact hk (k', e') hb

theorem ascending_ofList (entries : List (String × α)) : Ascending (ofList entries) := by
  suffices ∀ t : Table α, Ascending t →
      Ascending (entries.foldl (fun t e => insert e.1 e.2 t) t) from
    this [] List.Pairwise.nil
  induction entries with
  | nil => exact fun _ h => h
  | cons e es ih => exact fun t h => ih _ (ascending_insert h)

theorem mem_ofList {entries : List (String × α)} {b : String × α}
    (h : b ∈ ofList entries) : b ∈ entries := by
  suffices ∀ t : Table α, b ∈ entries.foldl (fun t e => insert e.1 e.2 t) t →
      b ∈ t ∨ b ∈ entries from
    (this [] h).resolve_left List.not_mem_nil
  clear h
  induction entries with
  | nil => exact fun t h => Or.inl h
  | cons e es ih =>
    intro t h
    rcases ih _ h with h | h
    · rcases mem_insert h with rfl | h
      · exact Or.inr List.mem_cons_self
      · exact Or.inl h
    · exact Or.inr (List.mem_cons_of_mem _ h)

/-- An entry under a key behind all others is put at the end. -/
theorem insert_of_lt {key : String} {entry : α} {t : Table α} (h : ∀ a ∈ t, a.1 < key) :
    insert key entry t = t ++ [(key, entry)] := by
  induction t with
  | nil => rfl
  | cons head t ih =>
    obtain ⟨k, e⟩ := head
    obtain ⟨hk, ht⟩ := List.forall_mem_cons.mp h
    have hless : ¬ key < k := String.lt_asymm hk
    have hne : key ≠ k := fun heq => String.lt_irrefl k (heq ▸ hk)
    rw [insert, if_neg hless, if_neg hne, ih ht, List.cons_append]

theorem ofList_of_ascending {t : Table α} (h : Ascending t) : ofList t = t := by
  -- the part already walked through is a front of the list
  suffices ∀ front back : Table α, Ascending (front ++ back) →
      back.foldl (fun t e => insert e.1 e.2 t) front = front ++ back from
    this [] t h
  intro front back
  induction back generalizing front with
  | nil => intro _; exact (List.append_nil front).symm
  | cons e es ih =>
    intro h
    have hlast : ∀ a ∈ front, a.1 < e.1 := fun a ha =>
      (List.pairwise_append.mp h).2.2 a ha e List.mem_cons_self
    rw [List.append_cons] at h ⊢
    rw [List.foldl_cons, insert_of_lt hlast]
    exact ih _ h

/-- The entry found under a key, of whatever kind, is one of the entries. -/
theorem mem_of_lookup {κ : Type} [BEq κ] [LawfulBEq κ] {k : κ} {e : α} {es : List (κ × α)}
    (h : es.lookup k = some e) : (k, e) ∈ es := by
  obtain ⟨before, after, rfl, _⟩ := List.lookup_eq_some_iff.mp h
  exact List.mem_append_right _ List.mem_cons_self

/-- Looking up goes through the entries one by one. -/
theorem lookup_entry (k k' : String) (e : α) (t : Table α) :
    List.lookup k ((k', e) :: t) = if k = k' then some e else List.lookup k t := by
  by_cases h : k = k'
  · simp [h]
  · have hb : (k == k') = false := by simpa using h
    simp [List.lookup_cons, hb, h]

/-- An entry that was put under a key is found there, and no other entry changes. -/
theorem lookup_insert (key k : String) (entry : α) (t : Table α) :
    List.lookup k (insert key entry t) = if k = key then some entry else List.lookup k t := by
  induction t with
  | nil => simp only [insert, lookup_entry]
  | cons head t ih =>
    obtain ⟨k', e⟩ := head
    simp only [insert]
    split
    · simp only [lookup_entry]
    · split
      · next heq => subst heq; by_cases h : k = key <;> simp [lookup_entry, h]
      · next hne =>
        rw [lookup_entry, lookup_entry, ih]
        by_cases h : k = k'
        -- the head is what is found, and it does not stand under the key
        · have hk : k ≠ key := fun hk => hne (hk.symm.trans h)
          rw [if_pos h, if_neg hk, if_pos h]
        · rw [if_neg h, if_neg h]

end Table

end Phrasebook
