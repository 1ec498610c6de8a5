import Mathlib.Data.List.Nodup
import Mathlib.Data.String.Basic
import Phrasebook.Proofs.Binary64.Equality
import Phrasebook.Proofs.Render.Outcome
import Phrasebook.Proofs.Template.Compilation

/-! # The branch that a plural takes

    A plural takes the first key for the value itself, then the key of the
    category of the value less the offset, then the fallback. The precedence is
    stated on the keys as the pattern has them and on the value that the argument
    has; that compiling sorts the branches into three groups does not show.
-/

namespace Phrasebook

/-! ### The precedence of keys -/

def exactKey? (key : String) : Option Binary64 :=
  match key.toList with
  | '=' :: cs => exactValue? cs
  | _ => none

/-- A key is an equals sign with a number behind it that equals the given one. -/
def KeyEquals (x : Binary64) (key : String) : Prop :=
  ∃ y, exactKey? key = some y ∧ y.Equals x

instance (x : Binary64) : DecidablePred (KeyEquals x) := fun key =>
  decidable_of_iff ((exactKey? key).any (fun y => decide (y.Equals x)) = true)
    (by simp [KeyEquals, Option.any_eq_true])

/-- How a plural comes to the key of its branch. -/
inductive PluralChoice where
  /-- The key is settled without the localizer. -/
  | settled (key : String)
  /-- The key follows from one answer of the localizer, a category. -/
  | byCategory (keyOf : Category → String)

/-- The choice among the keys of a plural for a value: the smallest key for the value
    itself; else the fallback if no key is for a category; else the key of the
    category, or the fallback where there is none. -/
def PluralChoice.among (keys : List String) (x : Binary64) : PluralChoice :=
  match (keys.filter fun key => KeyEquals x key).min? with
  | some key => .settled key
  | none =>
    if ∀ key ∈ keys, key = otherKey ∨ (exactKey? key).isSome then .settled otherKey
    else .byCategory fun c => if c.keyword ∈ keys then c.keyword else otherKey

/-- A choice stays among given keys, whatever the localizer answers. -/
def PluralChoice.Within (keys : List String) : PluralChoice → Prop
  | .settled key => key ∈ keys
  | .byCategory keyOf => ∀ c, keyOf c ∈ keys

theorem PluralChoice.among_within {keys : List String} (hother : otherKey ∈ keys) (x : Binary64) :
    (among keys x).Within keys := by
  unfold among
  split
  · next key hmin =>
    exact (List.mem_filter.mp (List.min?_mem hmin)).1
  · split
    · exact hother
    · intro c
      show (if c.keyword ∈ keys then c.keyword else otherKey) ∈ keys
      split
      · next hmem => exact hmem
      · exact hother

theorem Table.Ascending.eq_of_key {α : Type} {t : Table α} (h : t.Ascending) {a b : String × α}
    (ha : a ∈ t) (hb : b ∈ t) (hab : a.1 = b.1) : a = b := by
  have hkeys : (t.map Prod.fst).Nodup := List.pairwise_map.mpr (h.imp ne_of_lt)
  exact List.inj_on_of_nodup_map hkeys ha hb hab

/-- The entries of ascending branches have results by key, if each entry has one. -/
theorem Table.Ascending.exists_by_key {α β : Type} {P : α → β → Prop} [Inhabited β]
    {bs : Table α} (ordered : bs.Ascending) (h : ∀ b ∈ bs, ∃ x, P b.2 x) :
    ∃ f : String → β, ∀ b ∈ bs, P b.2 (f b.1) := by
  -- of the entries under one key there is only one, so results go by the key
  have hkeyed : ∀ key, ∃ x, ∀ b ∈ bs, b.1 = key → P b.2 x := by
    intro key
    by_cases hkey : ∃ b ∈ bs, b.1 = key
    · obtain ⟨b, hb, rfl⟩ := hkey
      obtain ⟨x, hx⟩ := h b hb
      refine ⟨x, fun a ha hab => ?_⟩
      obtain rfl := ordered.eq_of_key ha hb hab
      exact hx
    · exact ⟨default, fun b hb hbkey => absurd ⟨b, hb, hbkey⟩ hkey⟩
  choose f hf using hkeyed
  exact ⟨f, fun b hb => hf b.1 b hb rfl⟩

/-- Among ascending keys the smallest of some kind is the first of that kind. -/
theorem min?_filter_eq_find? {keys : List String} (h : keys.Pairwise (· < ·))
    (p : String → Bool) : (keys.filter p).min? = keys.find? p := by
  rw [← List.head?_filter]
  refine List.min?_eq_head? ((h.filter p).imp ?_)
  intro a b hab
  exact min_eq_left (le_of_lt hab)

/-! ### Branches by their keys -/

theorem exactKey?_eq_some_iff {key : String} {x : Binary64} :
    exactKey? key = some x ↔ PluralKey.ofText? key = some (.exact x) := by
  rw [PluralKey.ofText?_eq_exact_iff]
  unfold exactKey?
  split
  · next cs hkey => simp [hkey]
  · next hne => simpa using fun cs hcs _ => hne cs hcs

/-- The branches of a compiled plural: keys as they are read, each with the template
    that a function gives for the key. -/
def ReadAs (branch : String → Template) (keys : List String) (bs : List (PluralKey × Template)) :
    Prop :=
  List.Forall₂ (fun key b => PluralKey.ofText? key = some b.1 ∧ b.2 = branch key) keys bs

section
variable {branch : String → Template} {keys : List String} {bs : List (PluralKey × Template)}

theorem ReadAs.other (h : ReadAs branch keys bs) {other : Template}
    (hother : bs.lookup .other = some other) : otherKey ∈ keys ∧ other = branch otherKey := by
  -- induction on the keys as they were read, in step with the compiled branches
  induction h with
  | nil => cases hother
  | @cons key b keys bs hb _ ih =>
    obtain ⟨k, t⟩ := b
    obtain ⟨hkey, rfl⟩ := hb
    rw [List.lookup_cons] at hother
    by_cases hk : k = .other
    · subst hk
      obtain rfl : key = otherKey := PluralKey.ofText?_eq_other_iff.mp hkey
      exact ⟨List.mem_cons_self, (Option.some.inj hother).symm⟩
    · have hne : (PluralKey.other == k) = false := by simpa using Ne.symm hk
      rw [hne] at hother
      obtain ⟨hmem, rfl⟩ := ih hother
      exact ⟨List.mem_cons_of_mem _ hmem, rfl⟩

/-- The branch for a value is the one under the first key that equals it. -/
theorem ReadAs.exact (h : ReadAs branch keys bs) (x : Binary64) :
    ((exactBranches bs).find? fun b => b.1.sameValue x).map Prod.snd =
      (keys.find? fun key => KeyEquals x key).map branch := by
  induction h with
  | nil => rfl
  | @cons key b keys bs hb _ ih =>
    obtain ⟨k, t⟩ := b
    obtain ⟨hkey, rfl⟩ := hb
    have hequals : KeyEquals x key ↔ ∃ y, k = .exact y ∧ y.sameValue x = true := by
      simp only [KeyEquals, exactKey?_eq_some_iff, hkey, Option.some.injEq, Binary64.sameValue_iff]
    rw [List.find?_cons]
    cases k with
    | exact y =>
      rw [exactBranches_exact, List.find?_cons]
      cases hsame : y.sameValue x with
      | true => simp [hequals, hsame]
      | false => simpa [hequals, hsame] using ih
    | keyword w =>
      rw [exactBranches_keyword]
      simpa [hequals] using ih
    | other =>
      rw [exactBranches_other]
      simpa [hequals] using ih

/-- The branch for a keyword is the one under that key, unless it is the fallback. -/
theorem ReadAs.keyed (h : ReadAs branch keys bs) {word : String}
    (hword : ∀ cs, word.toList ≠ '=' :: cs) :
    (keyedBranches bs).lookup word =
      if word ∈ keys ∧ word ≠ otherKey then some (branch word) else none := by
  induction h with
  | nil => simp
  | @cons key b keys bs hb _ ih =>
    obtain ⟨k, t⟩ := b
    obtain ⟨hkey, rfl⟩ := hb
    cases k with
    | exact y =>
      obtain ⟨cs, hcs, _⟩ := PluralKey.ofText?_eq_exact_iff.mp hkey
      have hw : word ≠ key := fun h => hword cs (h ▸ hcs)
      rw [keyedBranches_exact, ih]
      simp [hw]
    | keyword w =>
      obtain ⟨rfl, hne, _⟩ := PluralKey.ofText?_eq_keyword_iff.mp hkey
      rw [keyedBranches_keyword, Table.lookup_entry, ih]
      by_cases hw : word = w
      · subst hw
        simp [hne]
      · simp [hw]
    | other =>
      obtain rfl : key = otherKey := PluralKey.ofText?_eq_other_iff.mp hkey
      rw [keyedBranches_other, ih]
      by_cases hw : word = otherKey
      · simp [hw]
      · simp [hw]

/-- There are branches for categories unless all keys are for values or the fallback. -/
theorem ReadAs.keyed_eq_nil_iff (h : ReadAs branch keys bs) :
    keyedBranches bs = [] ↔ ∀ key ∈ keys, key = otherKey ∨ (exactKey? key).isSome := by
  induction h with
  | nil => simp
  | @cons key b keys bs hb _ ih =>
    obtain ⟨k, t⟩ := b
    -- a key that is neither the fallback nor for a value leaves a branch for a category
    obtain ⟨hkey, rfl⟩ := hb
    rw [List.forall_mem_cons, ← ih]
    simp only [← PluralKey.ofText?_eq_other_iff, Option.isSome_iff_exists, exactKey?_eq_some_iff,
      hkey]
    cases k <;> simp

end

theorem Category.keyword_toList_ne (c : Category) (cs : List Char) :
    c.keyword.toList ≠ '=' :: cs := by
  cases c <;> simp [Category.keyword]

namespace Template

/-- Each branch of a plural that compiles has its template, and the compiled
    branches are the templates under the keys as they are read. -/
theorem exists_readAs {context : PluralContext} {branches : Branches}
    {bs : List (PluralKey × Template)} (ordered : Table.Ascending branches)
    (h : branches.mapM (compilePluralBranch context) = .ok bs) :
    ∃ branch : String → Template,
      (∀ b ∈ branches, compileIn (some context) b.2 = .ok (branch b.1)) ∧
        ReadAs branch (branches.map Prod.fst) bs := by
  -- each branch that was compiled has a template, which depends on the key alone
  have hcompile : ∀ b ∈ branches, ∃ t, compileIn (some context) b.2 = .ok t := by
    intro b hb
    obtain ⟨⟨k, t⟩, _, hstep⟩ := ok_of_mapM_ok h b hb
    exact ⟨t, (compilePluralBranch_eq_ok_iff.mp hstep).1⟩
  obtain ⟨branch, hcompiled⟩ :=
    ordered.exists_by_key (P := fun body t => compileIn (some context) body = .ok t) hcompile
  refine ⟨branch, hcompiled, ?_⟩
  have hsteps := mapM_eq_ok_iff.mp h
  clear h ordered hcompile
  -- the templates in the compiled branches are the ones that the function gives
  induction hsteps with
  | nil => exact .nil
  | @cons b b' branches bs hb _ ih =>
    obtain ⟨hhead, hrest⟩ := List.forall_mem_cons.mp hcompiled
    obtain ⟨ht, hkey⟩ := compilePluralBranch_eq_ok_iff.mp hb
    exact .cons ⟨hkey, Except.ok.inj (ht.symm.trans hhead)⟩ (ih hrest)

/-- For a number, a plural over branches read from ascending keys renders the branch
    of its choice among the keys. -/
theorem outcome_choice {kind : PluralKind} {offset : Int64} {branch : String → Template}
    {keys : List String} {bs : List (PluralKey × Template)} (ordered : keys.Pairwise (· < ·))
    (hread : ReadAs branch keys bs) (env : Environment) (q : Quantity) (s : CallState) :
    RenderM.outcome
        ((((exactBranches bs).find? fun b => b.1.sameValue q.toBinary64).map
            fun b => b.2.render env).getD <|
          if (keyedBranches bs).isEmpty then render env (branch otherKey)
          else do
            let c ← RenderM.ofLocale (env.localizer.category kind (q.minus offset))
            (((keyedBranches bs).lookup c.keyword).map (render env)).getD
              (render env (branch otherKey))) s =
      match PluralChoice.among keys q.toBinary64 with
      | .settled key => ((branch key).render env).outcome s
      | .byCategory keyOf =>
        match env.localizer.category kind (q.minus offset) with
        | .error e => (.error (.locale e), s)
        | .ok c => ((branch (keyOf c)).render env).outcome s := by
  have hexact : (((exactBranches bs).find? fun b => b.1.sameValue q.toBinary64).map
      fun b => b.2.render env) =
        (keys.find? fun key => KeyEquals q.toBinary64 key).map fun key =>
          render env (branch key) := by
    have hbranch := congrArg (Option.map (render env)) (hread.exact q.toBinary64)
    rw [Option.map_map, Option.map_map] at hbranch
    exact hbranch
  simp only [hexact, PluralChoice.among, min?_filter_eq_find? ordered]
  -- a key that equals the number settles the choice; otherwise categories may have branches
  cases keys.find? fun key => KeyEquals q.toBinary64 key with
  | some key => rfl
  | none =>
    by_cases hnone : keyedBranches bs = []
    · rw [if_pos (hread.keyed_eq_nil_iff.mp hnone), hnone]
      rfl
    · have hsome : ¬ (keyedBranches bs).isEmpty = true := by simpa using hnone
      rw [if_neg (mt hread.keyed_eq_nil_iff.mpr hnone), Option.map_none, Option.getD_none,
        if_neg hsome, RenderM.outcome_bind]
      cases env.localizer.category kind (q.minus offset) with
      | error e => rfl
      | ok c =>
        simp only [RenderM.outcome_ofLocale_ok, hread.keyed c.keyword_toList_ne]
        -- the fallback is also the branch for the category of its name
        by_cases hmem : c.keyword ∈ keys
        · by_cases hfallback : c.keyword = otherKey
          · simp [hfallback]
          · simp [hmem, hfallback]
        · simp [hmem]

section
variable {parent : Option PluralContext} {id : String} {kind : PluralKind} {offset : Int64}
  {branches : Branches} {t : Template}

/-- **The branch of a plural.** Any plural that compiles, in whatever context, has a
    template for each of its branches, one of them the fallback. Rendering it takes
    one branch and nothing else:
    - for an absent argument the fallback, with the absence recorded;
    - for an argument that is no number none, the argument being invalid;
    - else the branch under the smallest key for the number itself;
    - else, without an answer of the localizer, the fallback, if no key is for a
      category;
    - else the branch of the category that the localizer gives for the number less
      the offset, the fallback standing in for one that has none. Where the
      localizer gives no answer, its error is the outcome. -/
theorem plural_takes_branch_by_precedence
    (h : compileElement parent (.plural id kind offset branches) = .ok t)
    (ordered : Table.Ascending branches) :
    ∃ branch : String → Template,
      (∀ b ∈ branches, compileIn (some ⟨id, offset⟩) b.2 = .ok (branch b.1)) ∧
      otherKey ∈ branches.map Prod.fst ∧
      (∀ x, (PluralChoice.among (branches.map Prod.fst) x).Within (branches.map Prod.fst)) ∧
      ∀ env s, (t.render env).outcome s =
        match env.arguments id with
        | none => ((branch otherKey).render env).outcome (s.recordAbsence id)
        | some v =>
          match v.quantity? with
          | none => (.error (.invalidArgument id .number), s)
          | some q =>
            match PluralChoice.among (branches.map Prod.fst) q.toBinary64 with
            | .settled key => ((branch key).render env).outcome s
            | .byCategory keyOf =>
              match env.localizer.category kind (q.minus offset) with
              | .error e => (.error (.locale e), s)
              | .ok c => ((branch (keyOf c)).render env).outcome s := by
  obtain ⟨bs, other, hbs, hother, rfl⟩ := compile_plural_eq_ok_iff.mp h
  obtain ⟨branch, hcompiled, hread⟩ := exists_readAs ordered hbs
  obtain ⟨hfallback, rfl⟩ := hread.other hother
  have hkeys : (branches.map Prod.fst).Pairwise (· < ·) := List.pairwise_map.mpr ordered
  refine ⟨branch, hcompiled, hfallback, PluralChoice.among_within hfallback, fun env s => ?_⟩
  rw [render_plural, RenderM.outcome_bind, RenderM.outcome_argument?]
  cases env.arguments id with
  | none => rfl
  | some v =>
    show (RenderM.require id .number v.quantity? >>= _).outcome s = _
    rw [RenderM.outcome_bind]
    cases hquantity : v.quantity? with
    | none => simp only [hquantity, RenderM.outcome_require_none]
    | some q =>
      simp only [hquantity, RenderM.outcome_require_some]
      exact outcome_choice hkeys hread env q s

end

/-- With the plural taking off one guest, the keys are for the number as it is and the
    categories for the others: of two keys for one guest the smaller is taken, and
    the category of three guests is asked for the other two. -/
theorem branches_for_guests :
    let branches : Branches :=
      [("=1", [.literal "a guest"]), ("=1.0", [.literal "nobody else"]),
        ("few", [.literal "few others"]), ("other", [.literal "guests"])]
    let category (q : Quantity) : Except LocaleError Category :=
      if q = .integer 2 then .ok .few else .error (.invalidTag "und")
    let env (n : Int64) : Environment :=
      ⟨Arguments.ofList [("n", .integer n)],
        ⟨"und", fun _ => category, fun _ _ => .ok "", fun _ _ _ => .ok ""⟩⟩
    Table.Ascending branches ∧
      ∃ t, compileElement none (.plural "n" .cardinal 1 branches) = .ok t ∧
        ∀ s, (t.render (env 1)).outcome s = (.ok (.text "a guest"), s) ∧
          (t.render (env 3)).outcome s = (.ok (.text "few others"), s) ∧
          (t.render (env 4)).outcome s = (.error (.locale (.invalidTag "und")), s) := by
  intro branches category env
  have ordered : Table.Ascending branches := by
    unfold Table.Ascending
    decide
  have hcompile : ∃ t, compileElement none (.plural "n" .cardinal 1 branches) = .ok t := ⟨_, rfl⟩
  obtain ⟨t, ht⟩ := hcompile
  obtain ⟨branch, hbranch, _, _, hrender⟩ := plural_takes_branch_by_precedence ht ordered
  have hguest : branch "=1" = .literal "a guest" :=
    (Except.ok.inj (hbranch ("=1", [.literal "a guest"]) (by simp [branches]))).symm
  have hfew : branch "few" = .literal "few others" :=
    (Except.ok.inj (hbranch ("few", [.literal "few others"]) (by simp [branches]))).symm
  have hone : PluralChoice.among (branches.map Prod.fst) (.ofInt (1 : Int64).toInt) =
      .settled "=1" := by
    have hmin : ((branches.map Prod.fst).filter fun key =>
        KeyEquals (.ofInt (1 : Int64).toInt) key).min? = some "=1" := by decide +kernel
    rw [PluralChoice.among, hmin]
  have hmore : ∀ n : Int64, n = 3 ∨ n = 4 →
      PluralChoice.among (branches.map Prod.fst) (.ofInt n.toInt) =
        .byCategory fun c => if c.keyword ∈ branches.map Prod.fst then c.keyword else otherKey := by
    intro n hn
    have hmin : ((branches.map Prod.fst).filter fun key =>
        KeyEquals (.ofInt n.toInt) key).min? = none := by
      rcases hn with rfl | rfl <;> decide +kernel
    rw [PluralChoice.among, hmin]
    exact if_neg (by decide +kernel)
  have hn : ∀ n, (env n).arguments "n" = some (.integer n) := fun n => rfl
  refine ⟨ordered, t, ht, fun s => ⟨?_, ?_, ?_⟩⟩
  · simp only [hrender, hn, Value.quantity?, Quantity.toBinary64, hone, hguest]
    rfl
  · simp only [hrender, hn, Value.quantity?, Quantity.toBinary64, hmore 3 (Or.inl rfl)]
    show ((branch "few").render (env 3)).outcome s = _
    rw [hfew]
    rfl
  · simp only [hrender, hn, Value.quantity?, Quantity.toBinary64, hmore 4 (Or.inr rfl)]
    rfl

end Template

end Phrasebook
