import Phrasebook.Locale.Standard
import Phrasebook.Proofs.Decimal.Shortest
import Phrasebook.Proofs.Render.Direct

/-! # Plurals with a branch more or less

    A branch of a plural counts only for the numbers that it is for. Without a branch
    for an exact value all other numbers are rendered as before. Without a branch for
    a category so are those of which the localizer does not give that category, as
    long as the localizer is asked at all: a plural without any branch for a category
    does not ask it, and so is not met by its errors.
-/

namespace Phrasebook

open Text

/-! ### Tables without a key -/

theorem Table.filter_insert {α : Type} {key : String} (entry : α) {t : Table α}
    (h : key ∉ t.map Prod.fst) : (insert key entry t).filter (fun b => b.1 ≠ key) = t := by
  have hkept : t.filter (fun b => b.1 ≠ key) = t := by
    refine List.filter_eq_self.mpr fun b hb => decide_eq_true ?_
    rintro rfl
    exact h (List.mem_map_of_mem hb)
  induction t with
  | nil => simp [insert]
  | cons head t ih =>
    obtain ⟨k, e⟩ := head
    obtain ⟨hne, hrest⟩ := not_or.mp (mt List.mem_cons.mpr h)
    have hk : k ≠ key := fun heq => hne heq.symm
    have htail : t.filter (fun b => b.1 ≠ key) = t := by
      rw [List.filter_cons_of_pos (by simpa using hk)] at hkept
      exact (List.cons.inj hkept).2
    rw [insert]
    split
    · rw [List.filter_cons_of_neg (by simp), hkept]
    · rw [List.filter_cons_of_pos (by simpa using hk), ih hrest htail]

theorem Table.map_filter_key {α : Type} (key : String) (t : Table α) :
    (t.filter fun b => b.1 ≠ key).map Prod.fst = (t.map Prod.fst).filter (· ≠ key) := by
  rw [List.filter_map]
  rfl

theorem Table.filter_key_insert {α : Type} {key : String} (entry : α) {t : Table α}
    (h : key ∉ t.map Prod.fst) :
    ((insert key entry t).map Prod.fst).filter (· ≠ key) = t.map Prod.fst := by
  rw [← map_filter_key, filter_insert entry h]

theorem Table.key_mem_insert {α : Type} (key : String) (entry : α) (t : Table α) :
    key ∈ (insert key entry t).map Prod.fst := by
  have hentry : (key, entry) ∈ insert key entry t := by
    refine mem_of_lookup ?_
    rw [lookup_insert, if_pos rfl]
  exact List.mem_map_of_mem hentry

theorem Table.mem_key_insert {α : Type} {key k : String} {entry : α} {t : Table α}
    (h : k ∈ (insert key entry t).map Prod.fst) : k = key ∨ k ∈ t.map Prod.fst := by
  obtain ⟨b, hb, rfl⟩ := List.mem_map.mp h
  rcases mem_insert hb with rfl | hold
  · exact Or.inl rfl
  · exact Or.inr (List.mem_map_of_mem hold)

/-! ### The choice among fewer keys -/

theorem exactKey?_eq_none {key : String} (h : ∀ cs, key.toList ≠ '=' :: cs) :
    exactKey? key = none := by
  unfold exactKey?
  split
  · next cs hcs => exact absurd hcs (h cs)
  · rfl

theorem Category.exactKey?_keyword (c : Category) : exactKey? c.keyword = none :=
  exactKey?_eq_none c.keyword_toList_ne

theorem exactKey?_otherKey : exactKey? otherKey = none :=
  exactKey?_eq_none PluralKey.otherKey_toList_ne

theorem exists_of_exactKey? {key : String} (h : (exactKey? key).isSome) :
    ∃ cs, key.toList = '=' :: cs := by
  by_cases hequals : ∃ cs, key.toList = '=' :: cs
  · exact hequals
  · rw [exactKey?_eq_none fun cs hcs => hequals ⟨cs, hcs⟩] at h
    cases h

/-- A key for no value is no key that a number equals. -/
theorem not_keyEquals {key : String} (h : exactKey? key = none) (x : Binary64) :
    ¬ KeyEquals x key := by
  rintro ⟨y, hy, -⟩
  rw [h] at hy
  cases hy

namespace PluralChoice

variable {keys : List String} {key : String} {x : Binary64}

theorem filter_keyEquals_without (h : ¬ KeyEquals x key) :
    (keys.filter (· ≠ key)).filter (fun k => KeyEquals x k) =
      keys.filter fun k => KeyEquals x k := by
  rw [List.filter_filter]
  refine List.filter_congr fun k _ => ?_
  by_cases hk : k = key
  · subst hk
    simp [h]
  · simp [hk]

/-- Leaving out a key for another value changes no choice. -/
theorem among_without_exact (hexact : (exactKey? key).isSome) (h : ¬ KeyEquals x key) :
    among (keys.filter (· ≠ key)) x = among keys x := by
  -- the key is for a value, so it does not decide whether the localizer is asked
  have hsettled : (∀ k ∈ keys.filter (· ≠ key), k = otherKey ∨ (exactKey? k).isSome) ↔
      ∀ k ∈ keys, k = otherKey ∨ (exactKey? k).isSome := by
    constructor
    · intro hall k hk
      by_cases hkey : k = key
      · exact Or.inr (hkey ▸ hexact)
      · exact hall k (List.mem_filter.mpr ⟨hk, by simpa using hkey⟩)
    · exact fun hall k hk => hall k (List.mem_filter.mp hk).1
  -- no category goes by a key for a value
  have hcategory : ∀ c : Category, c.keyword ∈ keys.filter (· ≠ key) ↔ c.keyword ∈ keys := by
    intro c
    have hne : c.keyword ≠ key := by
      rintro rfl
      rw [c.exactKey?_keyword] at hexact
      cases hexact
    simp [hne]
  unfold among
  simp only [filter_keyEquals_without h, hsettled, hcategory]

/-- If a number equals some key, there is a smallest one. -/
theorem exists_min? (h : ¬ ∀ k ∈ keys, ¬ KeyEquals x k) :
    ∃ k, (keys.filter fun k => KeyEquals x k).min? = some k := by
  rw [← Option.isSome_iff_exists, List.isSome_min?_iff]
  intro hfilter
  apply h
  intro k hk
  simpa using List.filter_eq_nil_iff.mp hfilter k hk

/-- If no key is left for a category, a category whose key was not left out goes to the
    fallback. -/
theorem keyword_or_other {c : Category}
    (hsettled : ∀ k ∈ keys.filter (· ≠ key), k = otherKey ∨ (exactKey? k).isSome)
    (hne : c.keyword ≠ key) : (if c.keyword ∈ keys then c.keyword else otherKey) = otherKey := by
  by_cases hmem : c.keyword ∈ keys
  · -- the keyword is then the fallback key itself
    have hleft : c.keyword ∈ keys.filter (· ≠ key) :=
      List.mem_filter.mpr ⟨hmem, by simpa using hne⟩
    rw [if_pos hmem]
    apply (hsettled _ hleft).resolve_right
    rw [c.exactKey?_keyword]
    exact Bool.false_ne_true
  · exact if_neg hmem

/-- The only key for a value is taken for that value. -/
theorem among_of_only_key (hmem : key ∈ keys)
    (honly : ∀ k ∈ keys, (exactKey? k).isSome → k = key) (h : KeyEquals x key) :
    among keys x = .settled key := by
  have hfound : key ∈ keys.filter fun k => KeyEquals x k :=
    List.mem_filter.mpr ⟨hmem, by simpa using h⟩
  unfold among
  split
  · next k hmin =>
    obtain ⟨hk, hequals⟩ := List.mem_filter.mp (List.min?_mem hmin)
    obtain ⟨y, hy, -⟩ : KeyEquals x k := by simpa using hequals
    rw [honly k hk (by rw [hy]; rfl)]
  · next hnone =>
    rw [List.min?_eq_none_iff] at hnone
    rw [hnone] at hfound
    exact absurd hfound List.not_mem_nil

end PluralChoice

namespace Environment

variable {env : Environment} {id : String} {kind : PluralKind} {offset : Int64}
  {keys : List String} {key : String}

/-- Leaving out a key for another value changes no key of a plural. -/
theorem pluralKey_without_exact (hexact : (exactKey? key).isSome)
    (h : ∀ v q, env.arguments id = some v → v.quantity? = some q → ¬ KeyEquals q.toBinary64 key) :
    env.pluralKey id kind offset (keys.filter (· ≠ key)) = env.pluralKey id kind offset keys := by
  unfold pluralKey
  cases hv : env.arguments id with
  | none => rfl
  | some v =>
    cases hq : v.quantity? with
    | none => simp only [hq]
    | some q => simp only [hq, PluralChoice.among_without_exact hexact (h v q hv hq)]

/-- The smallest key that equals the number is taken without asking the localizer. -/
theorem pluralKey_of_min? {v : Value} {q : Quantity} {k : String} (hv : env.arguments id = some v)
    (hq : v.quantity? = some q)
    (hk : (keys.filter fun k => KeyEquals q.toBinary64 k).min? = some k) :
    env.pluralKey id kind offset keys = .ok k := by
  unfold pluralKey PluralChoice.among
  simp only [hv, hq, hk]

/-- For a number that no key is for, the key of a plural with a key for a category is
    what the localizer makes of it. -/
theorem pluralKey_of_word {v : Value} {q : Quantity} (hv : env.arguments id = some v)
    (hq : v.quantity? = some q) (hnone : ∀ k ∈ keys, ¬ KeyEquals q.toBinary64 k)
    (hword : ∃ k ∈ keys, k ≠ otherKey ∧ exactKey? k = none) :
    env.pluralKey id kind offset keys =
      match env.localizer.category kind (q.minus offset) with
      | .error e => .error (.locale e)
      | .ok c => .ok (if c.keyword ∈ keys then c.keyword else otherKey) := by
  -- no key equals the number, and the given one makes the choice wait for a category
  have hfilter : keys.filter (fun k => KeyEquals q.toBinary64 k) = [] :=
    List.filter_eq_nil_iff.mpr fun k hk => by simpa using hnone k hk
  have hasks : ¬ ∀ k ∈ keys, k = otherKey ∨ (exactKey? k).isSome := by
    obtain ⟨k, hk, hother, hexact⟩ := hword
    intro hall
    rcases hall k hk with heq | hsome
    · exact hother heq
    · rw [hexact] at hsome
      cases hsome
  unfold pluralKey PluralChoice.among
  cases hcategory : env.localizer.category kind (q.minus offset) with
  | error e => simp only [hv, hq, hfilter, List.min?_nil, if_neg hasks, hcategory]
  | ok c => simp only [hv, hq, hfilter, List.min?_nil, if_neg hasks, hcategory]

/-- The same without any key for a category: the localizer is not asked. -/
theorem pluralKey_of_no_word {v : Value} {q : Quantity} (hv : env.arguments id = some v)
    (hq : v.quantity? = some q) (hnone : ∀ k ∈ keys, ¬ KeyEquals q.toBinary64 k)
    (hword : ∀ k ∈ keys, k = otherKey ∨ (exactKey? k).isSome) :
    env.pluralKey id kind offset keys = .ok otherKey := by
  have hfilter : keys.filter (fun k => KeyEquals q.toBinary64 k) = [] :=
    List.filter_eq_nil_iff.mpr fun k hk => by simpa using hnone k hk
  unfold pluralKey PluralChoice.among
  simp only [hv, hq, hfilter, List.min?_nil, if_pos hword]

/-- Leaving out a key for a category changes no key of a plural where the localizer gives
    another category, or gives an error that is met or passed by without that key too. -/
theorem pluralKey_without_word (hmem : key ∈ keys) (hother : key ≠ otherKey)
    (hword : exactKey? key = none)
    (h : ∀ v q, env.arguments id = some v → v.quantity? = some q →
      (∃ c, env.localizer.category kind (q.minus offset) = .ok c ∧ c.keyword ≠ key) ∨
        (∃ e, env.localizer.category kind (q.minus offset) = .error e) ∧
          ∃ k ∈ keys.filter (· ≠ key),
            KeyEquals q.toBinary64 k ∨ k ≠ otherKey ∧ exactKey? k = none) :
    env.pluralKey id kind offset (keys.filter (· ≠ key)) = env.pluralKey id kind offset keys := by
  -- absent and unreadable arguments take no key; a number goes the way of one of its keys
  cases hv : env.arguments id with
  | none => simp only [pluralKey, hv]
  | some v =>
    cases hq : v.quantity? with
    | none => simp only [pluralKey, hv, hq]
    | some q =>
      by_cases hnone : ∀ k ∈ keys, ¬ KeyEquals q.toBinary64 k
      · have hnone' : ∀ k ∈ keys.filter (· ≠ key), ¬ KeyEquals q.toBinary64 k :=
          fun k hk => hnone k (List.mem_filter.mp hk).1
        rw [pluralKey_of_word hv hq hnone ⟨key, hmem, hother, hword⟩]
        by_cases hleft : ∃ k ∈ keys.filter (· ≠ key), k ≠ otherKey ∧ exactKey? k = none
        · -- the localizer is asked with and without the key
          rw [pluralKey_of_word hv hq hnone' hleft]
          rcases h v q hv hq with ⟨c, hc, hne⟩ | ⟨⟨e, he⟩, -⟩
          · rw [hc]
            simp [hne]
          · rw [he]
        · -- the localizer is asked for the sake of the key alone
          have hsettled : ∀ k ∈ keys.filter (· ≠ key), k = otherKey ∨ (exactKey? k).isSome := by
            intro k hk
            by_cases hk' : k = otherKey
            · exact Or.inl hk'
            · right
              rw [← Option.ne_none_iff_isSome]
              exact fun hexact => hleft ⟨k, hk, hk', hexact⟩
          rw [pluralKey_of_no_word hv hq hnone' hsettled]
          rcases h v q hv hq with ⟨c, hc, hne⟩ | ⟨-, k, hk, hequals | hk'⟩
          · rw [hc]
            show Except.ok otherKey = Except.ok (if c.keyword ∈ keys then c.keyword else otherKey)
            rw [PluralChoice.keyword_or_other hsettled hne]
          · exact absurd hequals (hnone' k hk)
          · exact absurd ⟨k, hk, hk'⟩ hleft
      · -- a key for the number itself comes first, with and without the key
        obtain ⟨k, hk⟩ := PluralChoice.exists_min? hnone
        have hk' : ((keys.filter (· ≠ key)).filter fun k => KeyEquals q.toBinary64 k).min? =
            some k := by
          rw [PluralChoice.filter_keyEquals_without (not_keyEquals hword _)]
          exact hk
        rw [pluralKey_of_min? hv hq hk, pluralKey_of_min? hv hq hk']

end Environment

namespace Template

variable {parent : Option PluralContext} {id : String} {kind : PluralKind} {offset : Int64}
  {branches : Branches} {t : Template}

/-- A plural without one of its branches, which is not the fallback, still compiles. It
    renders as before where it comes to the same key. -/
theorem exists_without_branch {key : String} (hkey : key ≠ otherKey)
    (ordered : Table.Ascending branches)
    (h : compileElement parent (.plural id kind offset branches) = .ok t) :
    ∃ rest, compileElement parent
        (.plural id kind offset (branches.filter fun b => b.1 ≠ key)) = .ok rest ∧
      ∀ env : Environment,
        env.pluralKey id kind offset ((branches.map Prod.fst).filter (· ≠ key)) =
          env.pluralKey id kind offset (branches.map Prod.fst) →
        rest.render env = t.render env := by
  -- the fallback is among the branches that are left, so the rest compiles too
  obtain ⟨hbranches, b, hb, hbother⟩ := exists_compile_plural_iff.mp ⟨t, h⟩
  have hrest : ∃ rest, compileElement parent
      (.plural id kind offset (branches.filter fun b => b.1 ≠ key)) = .ok rest := by
    refine exists_compile_plural_iff.mpr ⟨fun b hb => ?_, b, ?_, hbother⟩
    · exact hbranches b (List.mem_filter.mp hb).1
    · have hne : b.1 ≠ key := fun heq => hkey (heq.symm.trans hbother)
      exact List.mem_filter.mpr ⟨hb, by simpa using hne⟩
  obtain ⟨rest, hrest⟩ := hrest
  refine ⟨rest, hrest, fun env hsame => ?_⟩
  obtain ⟨branch, hcompiled, -, hrender⟩ := exists_branches_of_plural ordered h
  obtain ⟨branch', hcompiled', hfallback', hrender'⟩ :=
    exists_branches_of_plural (List.Pairwise.filter _ ordered) hrest
  rw [Table.map_filter_key] at hfallback' hrender'
  rw [hrender, hrender', hsame]
  congr
  funext _
  cases hpluralKey : env.pluralKey id kind offset (branches.map Prod.fst) with
  | error e => rfl
  | ok k =>
    -- the branch that is taken is still there, so its template is the same
    have hk := env.pluralKey_mem hfallback' (hsame.trans hpluralKey)
    rw [← Table.map_filter_key] at hk
    obtain ⟨b, hb, rfl⟩ := List.mem_map.mp hk
    have hleft := hcompiled' b hb
    rw [hcompiled b (List.mem_filter.mp hb).1] at hleft
    show (branch' b.1).render env = (branch b.1).render env
    rw [Except.ok.inj hleft]

/-- A plural with one branch more for a category still compiles. It renders as before
    where it comes to the same key. -/
theorem exists_with_branch {new : String} {body : Pattern} (ordered : Table.Ascending branches)
    (h : compileElement parent (.plural id kind offset branches) = .ok t)
    (hfresh : new ∉ branches.map Prod.fst) (hother : new ≠ otherKey)
    (hword : ∀ cs, new.toList ≠ '=' :: cs)
    (hbody : ∃ u, compileIn (some ⟨id, offset⟩) body = .ok u) :
    ∃ t', compileElement parent
        (.plural id kind offset (Table.insert new body branches)) = .ok t' ∧
      ∀ env : Environment,
        env.pluralKey id kind offset (branches.map Prod.fst) =
          env.pluralKey id kind offset ((Table.insert new body branches).map Prod.fst) →
        t.render env = t'.render env := by
  obtain ⟨hbranches, b, hb, hbother⟩ := exists_compile_plural_iff.mp ⟨t, h⟩
  have hfilter := Table.filter_insert body hfresh
  have hcompile : ∃ t', compileElement parent
      (.plural id kind offset (Table.insert new body branches)) = .ok t' := by
    apply exists_compile_plural_iff.mpr
    constructor
    · intro b hb
      rcases Table.mem_insert hb with rfl | hold
      · exact ⟨hbody, .keyword new, PluralKey.ofText?_eq_keyword_iff.mpr ⟨rfl, hother, hword⟩⟩
      · exact hbranches b hold
    · rw [← hfilter] at hb
      exact ⟨b, (List.mem_filter.mp hb).1, hbother⟩
  obtain ⟨t', h'⟩ := hcompile
  -- taking the new branch out again gives the plural from before
  obtain ⟨rest, hrest, hsame⟩ := exists_without_branch hother (Table.ascending_insert ordered) h'
  rw [hfilter, h] at hrest
  obtain rfl : t = rest := Except.ok.inj hrest
  rw [Table.filter_key_insert body hfresh] at hsame
  exact ⟨t', h', hsame⟩

/-! ### Branches for integers -/

def integerKey (n : Int64) : String :=
  "=" ++ Text.integerText n.toInt

theorem toList_integerKey (n : Int64) : (integerKey n).toList = '=' :: integerChars n.toInt := by
  rw [integerKey, String.toList_append, integerText, String.toList_ofList, String.toList_ofList]
  rfl

theorem exactKey?_integerKey (n : Int64) :
    exactKey? (integerKey n) = some (.ofInt n.toInt) := by
  have hread : exactValue? (integerChars n.toInt) = some (.ofInt n.toInt) := by
    rw [exactValue?, ← Decimal.chars_ofInt, Decimal.trimChars_chars, Decimal.chars_ofInt,
      Binary64.ofChars?_integerChars]
  unfold exactKey?
  rw [toList_integerKey]
  exact hread

/-- An integer is found by the key of another one if the two have the same nearest number. -/
theorem keyEquals_integerKey {n k : Int64} :
    KeyEquals (.ofInt n.toInt) (integerKey k) ↔
      Binary64.ofInt n.toInt = Binary64.ofInt k.toInt := by
  unfold KeyEquals
  rw [exactKey?_integerKey]
  constructor
  · rintro ⟨y, hy, hequals⟩
    obtain rfl := Option.some.inj hy
    exact (Binary64.equals_ofInt.mp hequals).symm
  · intro h
    exact ⟨_, rfl, Binary64.equals_ofInt.mpr h.symm⟩

/-- The only key for a value, if that is an integer, is taken for each integer with the same
    nearest number. -/
theorem pluralKey_of_integer {env : Environment} {keys : List String} {n k : Int64}
    (hn : env.arguments id = some (.integer n)) (hmem : integerKey k ∈ keys)
    (honly : ∀ key ∈ keys, ∀ cs, key.toList = '=' :: cs → key = integerKey k)
    (h : Binary64.ofInt n.toInt = Binary64.ofInt k.toInt) :
    env.pluralKey id kind offset keys = .ok (integerKey k) := by
  have honly' : ∀ key ∈ keys, (exactKey? key).isSome → key = integerKey k := by
    intro key hkey hsome
    obtain ⟨cs, hcs⟩ := exists_of_exactKey? hsome
    exact honly key hkey cs hcs
  have hamong := PluralChoice.among_of_only_key hmem honly' (keyEquals_integerKey.mpr h)
  simp only [Environment.pluralKey, hn, Value.quantity?, Quantity.toBinary64, hamong]

/-- **The branch for an integer.** If a plural has one branch for a value, and that value
    is an integer, then the branch is taken for just those integers that have the same
    nearest binary number; for the other integers the plural renders as without the
    branch. Below `2^53`, on either side, these are the integer itself and no other. -/
theorem branch_for_integer {k : Int64} {body : Pattern} (ordered : Table.Ascending branches)
    (h : compileElement parent (.plural id kind offset branches) = .ok t)
    (hbranch : (integerKey k, body) ∈ branches)
    (honly : ∀ b ∈ branches, ∀ cs, b.1.toList = '=' :: cs → b.1 = integerKey k) :
    ∃ own rest, compileIn (some ⟨id, offset⟩) body = .ok own ∧
      compileElement parent
        (.plural id kind offset (branches.filter fun b => b.1 ≠ integerKey k)) = .ok rest ∧
      (∀ env n, env.arguments id = some (.integer n) →
        t.render env = if Binary64.ofInt n.toInt = Binary64.ofInt k.toInt
          then own.render env else rest.render env) ∧
      ∀ n : Int64, n.toInt.natAbs < 2 ^ 53 ∨ k.toInt.natAbs < 2 ^ 53 →
        (Binary64.ofInt n.toInt = Binary64.ofInt k.toInt ↔ n = k) := by
  have hexact : (exactKey? (integerKey k)).isSome := by
    rw [exactKey?_integerKey]
    rfl
  have hother : integerKey k ≠ otherKey := by
    intro heq
    rw [heq, exactKey?_otherKey] at hexact
    cases hexact
  obtain ⟨rest, hrest, hsame⟩ := exists_without_branch hother ordered h
  obtain ⟨branch, hcompiled, -, hrender⟩ := exists_branches_of_plural ordered h
  refine ⟨branch (integerKey k), rest, hcompiled _ hbranch, hrest, fun env n hn => ?_, fun n => ?_⟩
  · by_cases heq : Binary64.ofInt n.toInt = Binary64.ofInt k.toInt
    · -- the key settles the choice
      have hmem : integerKey k ∈ branches.map Prod.fst := List.mem_map_of_mem hbranch
      have honly' : ∀ key ∈ branches.map Prod.fst, ∀ cs, key.toList = '=' :: cs →
          key = integerKey k := by
        intro key hkey
        obtain ⟨b, hb, rfl⟩ := List.mem_map.mp hkey
        exact honly b hb
      rw [if_pos heq, hrender, pluralKey_of_integer hn hmem honly' heq, RenderM.argument?, hn]
      rfl
    · -- the key is for another value, so it does not count
      rw [if_neg heq]
      apply Eq.symm
      apply hsame env
      apply Environment.pluralKey_without_exact hexact
      intro v q hv hq
      obtain rfl : Value.integer n = v := Option.some.inj (hn.symm.trans hv)
      obtain rfl : Quantity.integer n = q := Option.some.inj hq
      exact mt keyEquals_integerKey.mp heq
  · rintro (hn | hk)
    · rw [eq_comm, Binary64.ofInt_eq_ofInt_iff hn, Int64.toInt_inj, eq_comm]
    · rw [Binary64.ofInt_eq_ofInt_iff hk, Int64.toInt_inj]

/-- A small integer is told from all others, whatever the localizer and the offset. -/
theorem branch_for_five :
    let branches : Branches := [("=5", [.literal "five"]), ("other", [.literal "not five"])]
    Table.Ascending branches ∧
      ∃ t, compileElement none (.plural "n" .cardinal 1 branches) = .ok t ∧
        ∀ localizer n, t.render ⟨Arguments.ofList [("n", .integer n)], localizer⟩ =
          pure (.text (if n = 5 then "five" else "not five")) := by
  intro branches
  have ordered : Table.Ascending branches := by
    unfold Table.Ascending
    decide
  have hkey : integerKey 5 = "=5" := by decide
  have hbranch : (integerKey 5, [Element.literal "five"]) ∈ branches := by
    rw [hkey]
    exact List.mem_cons_self
  have honly : ∀ b ∈ branches, ∀ cs, b.1.toList = '=' :: cs → b.1 = integerKey 5 := by
    simp [branches, hkey]
  have hleft : branches.filter (fun b => b.1 ≠ integerKey 5) =
      [("other", [.literal "not five"])] := by
    simp [branches, hkey]
  have hcompile : ∃ t, compileElement none (.plural "n" .cardinal 1 branches) = .ok t := ⟨_, rfl⟩
  obtain ⟨t, ht⟩ := hcompile
  obtain ⟨own, rest, hown, hrest, htaken, hiff⟩ := branch_for_integer ordered ht hbranch honly
  rw [hleft] at hrest
  obtain rfl : Template.literal "five" = own := Except.ok.inj hown
  obtain rfl : Template.plural "n" .cardinal 1 [] [] (.literal "not five") = rest :=
    Except.ok.inj hrest
  refine ⟨ordered, t, ht, fun localizer n => ?_⟩
  have hfive := hiff n (Or.inr (by decide))
  rw [htaken _ n rfl]
  by_cases hn : n = 5
  · rw [if_pos (hfive.mpr hn), if_pos hn]
    rfl
  · rw [if_neg (mt hfive.mp hn), if_neg hn]
    rfl

/-- **Above `2^53` the branch for an integer is taken for another one**, which is rounded to
    the same number. -/
theorem branch_for_neighbour :
    let branches : Branches :=
      [("=9007199254740992", [.literal "hit"]), ("other", [.literal "miss"])]
    let env (n : Int64) : Environment :=
      ⟨Arguments.ofList [("n", .integer n)], Locale.english.localizer⟩
    Pattern.shown? [.plural "n" .cardinal 0 branches] (env 9007199254740993) = some (.ok "hit") ∧
      Pattern.shown? [.plural "n" .cardinal 0 branches] (env 9007199254740994) =
        some (.ok "miss") := by
  decide +kernel

/-! ### Branches for categories -/

/-- **One branch more for a category.** Putting a branch under a new keyword into a plural
    changes only what the plural renders for numbers
    - that the localizer gives the category of that keyword, or
    - for which it gives an error, if no key is for the number itself and the plural had
      no branch for a category before. Such a plural takes its fallback without asking
      the localizer; with the new branch it fails with the error. -/
theorem branch_for_new_category {new : String} {body : Pattern} (ordered : Table.Ascending branches)
    (h : compileElement parent (.plural id kind offset branches) = .ok t)
    (hfresh : new ∉ branches.map Prod.fst) (hother : new ≠ otherKey)
    (hword : ∀ cs, new.toList ≠ '=' :: cs)
    (hbody : ∃ u, compileIn (some ⟨id, offset⟩) body = .ok u) :
    ∃ t' fallback, compileElement parent
        (.plural id kind offset (Table.insert new body branches)) = .ok t' ∧
      (∃ b ∈ branches, b.1 = otherKey ∧ compileIn (some ⟨id, offset⟩) b.2 = .ok fallback) ∧
      (∀ env : Environment,
        (∀ v q, env.arguments id = some v → v.quantity? = some q →
          (∃ c, env.localizer.category kind (q.minus offset) = .ok c ∧ c.keyword ≠ new) ∨
            (∃ e, env.localizer.category kind (q.minus offset) = .error e) ∧
              ∃ key ∈ branches.map Prod.fst,
                KeyEquals q.toBinary64 key ∨ key ≠ otherKey ∧ exactKey? key = none) →
        t'.render env = t.render env) ∧
      ∀ (env : Environment) v q e, env.arguments id = some v → v.quantity? = some q →
        env.localizer.category kind (q.minus offset) = .error e →
        (∀ key ∈ branches.map Prod.fst,
          ¬ KeyEquals q.toBinary64 key ∧ (key = otherKey ∨ (exactKey? key).isSome)) →
        t.render env = fallback.render env ∧ t'.render env = throw (.locale e) := by
  obtain ⟨-, b, hb, hbother⟩ := exists_compile_plural_iff.mp ⟨t, h⟩
  obtain ⟨t', h', hsame⟩ := exists_with_branch ordered h hfresh hother hword hbody
  obtain ⟨branch, hcompiled, -, hrender⟩ := exists_branches_of_plural ordered h
  obtain ⟨branch', -, -, hrender'⟩ := exists_branches_of_plural (Table.ascending_insert ordered) h'
  have hnew : exactKey? new = none := exactKey?_eq_none hword
  have hmem := Table.key_mem_insert new body branches
  have hkeys := Table.filter_key_insert body hfresh
  refine ⟨t', branch otherKey, h', ⟨b, hb, hbother, hbother ▸ hcompiled b hb⟩, ?_, ?_⟩
  · intro env hcases
    apply Eq.symm
    apply hsame env
    rw [← hkeys] at hcases ⊢
    exact Environment.pluralKey_without_word hmem hother hnew hcases
  · intro env v q e hv hq he hnone
    -- before, nothing but the fallback was left, so there was no question
    have hbefore : env.pluralKey id kind offset (branches.map Prod.fst) = .ok otherKey :=
      Environment.pluralKey_of_no_word hv hq (fun k hk => (hnone k hk).1) fun k hk => (hnone k hk).2
    -- the new key is for no value, so it makes the plural ask
    have hnone' : ∀ k ∈ (Table.insert new body branches).map Prod.fst,
        ¬ KeyEquals q.toBinary64 k := by
      intro k hk
      rcases Table.mem_key_insert hk with rfl | hold
      · exact not_keyEquals hnew _
      · exact (hnone k hold).1
    have hafter : env.pluralKey id kind offset ((Table.insert new body branches).map Prod.fst) =
        .error (.locale e) := by
      rw [Environment.pluralKey_of_word hv hq hnone' ⟨new, hmem, hother, hnew⟩, he]
    constructor
    · rw [hrender, hbefore, RenderM.argument?, hv]
      rfl
    · rw [hrender', hafter, RenderM.argument?, hv]
      rfl

/-- A branch for few guests changes nothing in English, which has no such category. -/
theorem branch_for_few_in_english :
    let branches : Branches :=
      [("=1", [.literal "you"]), ("one", [.literal "you and a guest"]), ("other", [.literal "all"])]
    let env (n : Int64) : Environment :=
      ⟨Arguments.ofList [("n", .integer n)], Locale.english.localizer⟩
    Table.Ascending branches ∧
      ∃ t t', compileElement none (.plural "n" .cardinal 1 branches) = .ok t ∧
        compileElement none (.plural "n" .cardinal 1
          (Table.insert "few" [.literal "you and a few"] branches)) = .ok t' ∧
        t'.render (env 2) = t.render (env 2) ∧ t'.render (env 3) = t.render (env 3) := by
  intro branches env
  have ordered : Table.Ascending branches := by
    unfold Table.Ascending
    decide
  have hcompile : ∃ t, compileElement none (.plural "n" .cardinal 1 branches) = .ok t := ⟨_, rfl⟩
  obtain ⟨t, ht⟩ := hcompile
  have hfresh : "few" ∉ branches.map Prod.fst := by simp [branches]
  have hword : ∀ cs, "few".toList ≠ '=' :: cs := by simp
  have hbody : ∃ u, compileIn (some ⟨"n", 1⟩) [.literal "you and a few"] = .ok u := ⟨_, rfl⟩
  obtain ⟨t', -, ht', -, hsame, -⟩ :=
    branch_for_new_category ordered ht hfresh (by decide) hword hbody
  have hbound : ∀ n v q, (env n).arguments "n" = some v → v.quantity? = some q →
      q = .integer n := by
    intro n v q hv hq
    obtain rfl : Value.integer n = v := Option.some.inj hv
    exact (Option.some.inj hq).symm
  refine ⟨ordered, t, t', ht, ht', hsame (env 2) ?_, hsame (env 3) ?_⟩
  · intro v q hv hq
    rw [hbound 2 v q hv hq]
    exact Or.inl ⟨.one, by decide +kernel, by decide⟩
  · intro v q hv hq
    rw [hbound 3 v q hv hq]
    exact Or.inl ⟨.other, by decide +kernel, by decide⟩

/-- **Asking the localizer can fail.** What is no number shows the fallback as long as there
    is no branch for a category. -/
theorem fallback_fails_with_new_category :
    let branches : Branches := [("other", [.literal "b"])]
    let env : Environment :=
      ⟨Arguments.ofList [("n", .real .nan)], Locale.english.localizer⟩
    Pattern.shown? [.plural "n" .cardinal 0 branches] env = some (.ok "b") ∧
      Pattern.shown? [.plural "n" .cardinal 0 (Table.insert "one" [.literal "a"] branches)] env =
        some (.error (.locale (.invalidNumber "NaN"))) := by
  decide +kernel

end Template

end Phrasebook
