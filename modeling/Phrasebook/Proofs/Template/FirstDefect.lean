import Phrasebook.Proofs.Pattern.Occurrence
import Phrasebook.Proofs.Template.Compilation

/-! # Well-formed patterns and their first defect

    A pattern is well formed when every `#` has a plural around it, every choice
    has a fallback, and every key that starts with an equals sign goes on with a
    number. Compiling accepts exactly these patterns. Of all defects of another
    pattern it reports the one whose place comes first.

    Both statements go through `Pattern.DefectIn`, the defects of a pattern
    with their places: compiling succeeds only where there is none, and what it
    reports is a defect before which there is no other.
-/

namespace Phrasebook

/-! ### Well-formed patterns -/

/-- **Well-formedness**, as three conditions on the elements of a pattern at any depth. -/
structure Pattern.WellFormed (p : Pattern) : Prop where
  /-- Every `#` has a plural somewhere around it. -/
  plural_around : ∀ π above, p.At π above .pound → ∃ a ∈ above, a.IsPlural
  /-- Every choice has a branch whose key is exactly the fallback key. -/
  fallback : ∀ π above e, p.At π above e → e.IsChoice → ∃ b ∈ e.branches, b.1 = otherKey
  /-- Every key of a plural that starts with an equals sign goes on with a
      text that, trimmed, is a binary number. -/
  exact_keys : ∀ π above e, p.At π above e → e.IsPlural → ∀ b ∈ e.branches, ∀ cs,
    b.1.toList = '=' :: cs → ∃ x, Binary64.ofChars? (Text.trimChars cs) = some x

/-! ### The order of places -/

/-- One turn comes before another. -/
inductive Turn.Before : Turn → Turn → Prop
  /-- Elements come from left to right. -/
  | element {i j : Nat} (h : i < j) : Before (.element i) (.element j)
  /-- Branches come in ascending order of their keys. -/
  | branch {k k' : String} (h : k < k') : Before (.branch k) (.branch k')
  /-- Keys come in ascending order. -/
  | key {k k' : String} (h : k < k') : Before (.key k) (.key k')
  /-- A branch comes before its own key. -/
  | branch_key {k k' : String} (h : k ≤ k') : Before (.branch k) (.key k')
  /-- A key comes before the branches behind its own. -/
  | key_branch {k k' : String} (h : k < k') : Before (.key k) (.branch k')
  /-- A missing fallback comes after all branches. -/
  | branch_fallback {k : String} : Before (.branch k) .fallback
  /-- A missing fallback comes after all keys. -/
  | key_fallback {k : String} : Before (.key k) .fallback

/-- One place comes before another: it does at the first turn where the two part. -/
def Place.Before (π ρ : Place) : Prop :=
  List.Lex Turn.Before π ρ

theorem Turn.Before.asymm {t u : Turn} (h : Turn.Before t u) : ¬ Turn.Before u t := by
  intro h'
  cases h with
  | element h => cases h' with | element h' => exact Nat.lt_asymm h h'
  | branch h => cases h' with | branch h' => exact String.lt_asymm h h'
  | key h => cases h' with | key h' => exact String.lt_asymm h h'
  | branch_key h => cases h' with | key_branch h' => exact h h'
  | key_branch h => cases h' with | branch_key h' => exact h' h
  | branch_fallback => cases h'
  | key_fallback => cases h'

theorem Place.Before.asymm {π ρ : Place} (h : Place.Before π ρ) : ¬ Place.Before ρ π :=
  List.lex_asymm (fun h => Turn.Before.asymm h) h

/-! ### Defects and their places -/

/-- What is wrong with an element by itself, inside a given plural or inside none,
    at a place seen from the element. -/
inductive Element.Flaw (c : Option PluralContext) : Element → Place → PatternError → Prop
  | pound (h : c = none) : Flaw c .pound [] .poundOutsidePlural
  | exactKey {id : String} {kind : PluralKind} {offset : Int64} {bs : Branches} {key : String}
      {body : Pattern} {cs : List Char} (hb : (key, body) ∈ bs) (hkey : key.toList = '=' :: cs)
      (hx : exactValue? cs = none) :
      Flaw c (.plural id kind offset bs) [.key key] (.invalidExactKey id key)
  | pluralFallback {id : String} {kind : PluralKind} {offset : Int64} {bs : Branches}
      (h : ¬ ∃ b ∈ bs, b.1 = otherKey) :
      Flaw c (.plural id kind offset bs) [.fallback] (.missingOther id)
  | selectFallback {id : String} {bs : Branches} (h : ¬ ∃ b ∈ bs, b.1 = otherKey) :
      Flaw c (.select id bs) [.fallback] (.missingOther id)

/-- A pattern inside a given context has a defect at a place: an element in it
    is flawed there. -/
def Pattern.DefectIn (c : Option PluralContext) (p : Pattern) (π : Place) (x : PatternError) :
    Prop :=
  ∃ top above e ρ, p.At top above e ∧ e.Flaw (innermost c above) ρ x ∧ π = top ++ ρ

/-- An element has a defect at a place: a flaw of its own, or one in a branch
    or among its children. -/
def Element.DefectIn (c : Option PluralContext) (e : Element) (π : Place) (x : PatternError) :
    Prop :=
  e.Flaw c π x ∨
    (∃ key body ρ, (key, body) ∈ e.branches ∧ π = .branch key :: ρ ∧
      Pattern.DefectIn (e.context c) body ρ x) ∨
    Pattern.DefectIn (e.context c) e.children π x

/-- Of the defects with their places the given one comes first: it is one of
    them, and every other comes after it. -/
def IsFirst (D : Place → PatternError → Prop) (π : Place) (x : PatternError) : Prop :=
  D π x ∧ ∀ π' x', D π' x' → (π' = π ∧ x' = x) ∨ Place.Before π π'

theorem IsFirst.unique {D : Place → PatternError → Prop} {π ρ : Place} {x y : PatternError}
    (hx : IsFirst D π x) (hy : IsFirst D ρ y) : x = y := by
  rcases hx.2 ρ y hy.1 with ⟨_, h⟩ | hbefore
  · exact h.symm
  · rcases hy.2 π x hx.1 with ⟨_, h⟩ | hafter
    · exact h
    · exact absurd hafter hbefore.asymm

/-- The defects of a pattern are those of its elements. -/
theorem Pattern.defectIn_iff {c : Option PluralContext} {p : Pattern} {π : Place}
    {x : PatternError} :
    DefectIn c p π x ↔
      ∃ i e ρ, p[i]? = some e ∧ π = .element i :: ρ ∧ e.DefectIn c ρ x := by
  constructor
  · rintro ⟨top, above, e, ρ, hat, hflaw, rfl⟩
    cases hat with
    | here hi => exact ⟨_, e, ρ, hi, rfl, Or.inl hflaw⟩
    | branch hi hb hat =>
      exact ⟨_, _, _, hi, rfl, Or.inr (Or.inl ⟨_, _, _, hb, rfl, _, _, e, ρ, hat, hflaw, rfl⟩)⟩
    | child hi hat =>
      exact ⟨_, _, _, hi, rfl, Or.inr (Or.inr ⟨_, _, e, ρ, hat, hflaw, rfl⟩)⟩
  · rintro ⟨i, a, ρ, hi, rfl, hflaw | ⟨key, body, ρ', hb, rfl, hbody⟩ | hchildren⟩
    · exact ⟨[.element i], [], a, ρ, .here hi, hflaw, rfl⟩
    · obtain ⟨top, above, e, σ, hat, hflaw, rfl⟩ := hbody
      exact ⟨.element i :: .branch key :: top, a :: above, e, σ, .branch hi hb hat, hflaw, rfl⟩
    · obtain ⟨top, above, e, σ, hat, hflaw, rfl⟩ := hchildren
      exact ⟨.element i :: top, a :: above, e, σ, .child hi hat, hflaw, rfl⟩

theorem Pattern.no_defect {c : Option PluralContext} {p : Pattern}
    (h : ∀ e ∈ p, ∀ π x, ¬ e.DefectIn c π x) (π : Place) (x : PatternError) :
    ¬ DefectIn c p π x := by
  intro hdefect
  obtain ⟨i, e, ρ, hi, _, he⟩ := defectIn_iff.mp hdefect
  exact h e (List.mem_of_getElem? hi) ρ x he

/-- An element with neither branches nor children has only flaws of its own. -/
theorem Element.flaw_of_defectIn {c : Option PluralContext} {e : Element} {π : Place}
    {x : PatternError} (hb : e.branches = []) (hc : e.children = []) (h : e.DefectIn c π x) :
    e.Flaw c π x := by
  rcases h with hflaw | ⟨key, body, ρ, hmem, _⟩ | hchildren
  · exact hflaw
  · rw [hb] at hmem
    exact absurd hmem List.not_mem_nil
  · rw [hc] at hchildren
    exact absurd hchildren (Pattern.no_defect (by simp) π x)

namespace Template

/-! ### What compiles has no defect -/

/-- A pattern that compiles has no defect, if its elements have none as soon as
    they compile. -/
theorem no_defect_of_compileIn {c : Option PluralContext} {p : Pattern} {t : Template}
    (ih : ∀ e ∈ p, ∀ t, compileElement c e = .ok t → ∀ π x, ¬ e.DefectIn c π x)
    (h : compileIn c p = .ok t) : ∀ π x, ¬ Pattern.DefectIn c p π x := by
  obtain ⟨ts, hts, _⟩ := compileIn_eq_ok_iff.mp h
  apply Pattern.no_defect
  intro e he
  obtain ⟨t', _, ht'⟩ := ok_of_mapM_ok hts e he
  exact ih e he t' ht'

theorem no_defect_of_compileElement (e : Element) : ∀ c t, compileElement c e = .ok t →
    ∀ π x, ¬ e.DefectIn c π x := by
  induction e using Element.induct with
  | literal | argument | number | moment | emptyTag =>
    intro c t _ π x hdefect
    cases Element.flaw_of_defectIn rfl rfl hdefect
  | pound =>
    intro c t h π x hdefect
    cases Element.flaw_of_defectIn rfl rfl hdefect with
    | pound hc =>
      rw [hc] at h
      cases h
  | plural id kind offset bs ih =>
    intro c t h π x hdefect
    obtain ⟨bs', other, hbs, hother, _⟩ := compile_plural_eq_ok_iff.mp h
    have hbranch : ∀ b ∈ bs, (∃ t, compileIn (some ⟨id, offset⟩) b.2 = .ok t) ∧
        ∃ k, PluralKey.ofText? b.1 = some k := by
      intro b hb
      obtain ⟨⟨k, t⟩, _, hok⟩ := ok_of_mapM_ok hbs b hb
      obtain ⟨ht, hk⟩ := compilePluralBranch_eq_ok_iff.mp hok
      exact ⟨⟨t, ht⟩, ⟨k, hk⟩⟩
    -- the defect is a flaw of the plural, or inside a branch; a plural has no children
    rcases hdefect with hflaw | ⟨key, body, ρ, hb, _, hbody⟩ | hchildren
    · cases hflaw with
      | exactKey hb hkey hx =>
        obtain ⟨k, hk⟩ := (hbranch _ hb).2
        rw [PluralKey.ofText?_eq_none_iff.mpr ⟨_, hkey, hx⟩] at hk
        cases hk
      | pluralFallback hnone => exact hnone ((exists_lookup_other_iff hbs).mp ⟨other, hother⟩)
    · obtain ⟨t, ht⟩ := (hbranch _ hb).1
      exact no_defect_of_compileIn (fun e he => ih _ hb e he _) ht ρ x hbody
    · exact Pattern.no_defect (by simp [Element.children]) π x hchildren
  | select id bs ih =>
    intro c t h π x hdefect
    obtain ⟨bs', other, hbs, hother, _⟩ := compile_select_eq_ok_iff.mp h
    rcases hdefect with hflaw | ⟨key, body, ρ, hb, _, hbody⟩ | hchildren
    · cases hflaw with
      | selectFallback hnone =>
        exact hnone ((exists_lookup_otherKey_iff hbs).mp ⟨other, hother⟩)
    · obtain ⟨⟨k, t⟩, _, hok⟩ := ok_of_mapM_ok hbs _ hb
      obtain ⟨ht, _⟩ := compileSelectBranch_eq_ok_iff.mp hok
      exact no_defect_of_compileIn (fun e he => ih _ hb e he _) ht ρ x hbody
    · exact Pattern.no_defect (by simp [Element.children]) π x hchildren
  | tag id attributes children ih =>
    intro c t h π x hdefect
    rw [compile_tag_eq] at h
    obtain ⟨t', ht', _⟩ := map_eq_ok_iff.mp h
    rcases hdefect with hflaw | ⟨key, body, ρ, hb, _⟩ | hchildren
    · cases hflaw
    · exact absurd hb List.not_mem_nil
    · exact no_defect_of_compileIn (fun e he => ih e he _) ht' π x hchildren

/-! ### What is reported comes first -/

/-- The defect reported for a list of elements is the first, if it is for each of them. -/
theorem first_of_elements {c : Option PluralContext} {p : Pattern} {x : PatternError}
    (ih : ∀ e ∈ p, compileElement c e = .error x → ∃ π, IsFirst (e.DefectIn c) π x)
    (h : compileIn c p = .error x) : ∃ π, IsFirst (Pattern.DefectIn c p) π x := by
  rw [compileIn_eq_error_iff, mapM_eq_error_iff] at h
  obtain ⟨before, e, after, rfl, hbefore, he⟩ := h
  obtain ⟨π, hdefect, hfirst⟩ := ih e (by simp) he
  refine ⟨.element before.length :: π,
    Pattern.defectIn_iff.mpr ⟨before.length, e, π, by simp, rfl, hdefect⟩, ?_⟩
  intro π' x' h'
  obtain ⟨i, e', ρ, hi, rfl, he'⟩ := Pattern.defectIn_iff.mp h'
  -- compared with the element that has failed, the other defect is to the left, inside, or
  -- behind
  rcases Nat.lt_trichotomy i before.length with hlt | rfl | hgt
  · -- the elements to the left have compiled
    rw [List.getElem?_append_left hlt] at hi
    obtain ⟨t, ht⟩ := hbefore e' (List.mem_of_getElem? hi)
    exact absurd he' (no_defect_of_compileElement e' c t ht ρ x')
  · obtain rfl : e = e' := by simpa using hi
    rcases hfirst ρ x' he' with ⟨rfl, rfl⟩ | hbefore
    · exact Or.inl ⟨rfl, rfl⟩
    · exact Or.inr (.cons hbefore)
  · exact Or.inr (.rel (.element hgt))

section
variable {c : Option PluralContext} {id : String} {kind : PluralKind} {offset : Int64}
  {bs : Branches} {x : PatternError}

/-- The defects of a plural: in a branch, in a key, or for want of a fallback. -/
theorem plural_defect_cases {π : Place}
    (h : (Element.plural id kind offset bs).DefectIn c π x) :
    (∃ b ∈ bs, ∃ ρ, π = .branch b.1 :: ρ ∧ Pattern.DefectIn (some ⟨id, offset⟩) b.2 ρ x) ∨
      (∃ b ∈ bs, π = [.key b.1] ∧ x = .invalidExactKey id b.1 ∧
        PluralKey.ofText? b.1 = none) ∨
      π = [.fallback] ∧ x = .missingOther id ∧ ¬ ∃ b ∈ bs, b.1 = otherKey := by
  -- a plural has no children, and its flaws are the two of choices by number
  rcases h with hflaw | ⟨key, body, ρ, hb, rfl, hbody⟩ | hchildren
  · cases hflaw with
    | exactKey hb hkey hx =>
      exact Or.inr (Or.inl ⟨_, hb, rfl, rfl, PluralKey.ofText?_eq_none_iff.mpr ⟨_, hkey, hx⟩⟩)
    | pluralFallback hnone => exact Or.inr (Or.inr ⟨rfl, rfl, hnone⟩)
  · exact Or.inl ⟨(key, body), hb, ρ, rfl, hbody⟩
  · exact absurd hchildren (Pattern.no_defect (by simp [Element.children]) π x)

/-- The defects of a select: in a branch, or for want of a fallback. -/
theorem select_defect_cases {π : Place} (h : (Element.select id bs).DefectIn c π x) :
    (∃ b ∈ bs, ∃ ρ, π = .branch b.1 :: ρ ∧ Pattern.DefectIn c b.2 ρ x) ∨
      π = [.fallback] ∧ x = .missingOther id ∧ ¬ ∃ b ∈ bs, b.1 = otherKey := by
  rcases h with hflaw | ⟨key, body, ρ, hb, rfl, hbody⟩ | hchildren
  · cases hflaw with
    | selectFallback hnone => exact Or.inr ⟨rfl, rfl, hnone⟩
  · exact Or.inl ⟨(key, body), hb, ρ, rfl, hbody⟩
  · exact absurd hchildren (Pattern.no_defect (by simp [Element.children]) π x)

/-- A branch that compiles has no defect inside. -/
theorem no_defect_in_branch {body : Pattern} {t : Template} (h : compileIn c body = .ok t)
    (ρ : Place) (y : PatternError) : ¬ Pattern.DefectIn c body ρ y :=
  no_defect_of_compileIn (fun e _ => no_defect_of_compileElement e c) h ρ y

theorem first_of_plural_branches (asc : Table.Ascending bs)
    (ih : ∀ b ∈ bs, compileIn (some ⟨id, offset⟩) b.2 = .error x →
      ∃ π, IsFirst (Pattern.DefectIn (some ⟨id, offset⟩) b.2) π x)
    (h : bs.mapM (compilePluralBranch ⟨id, offset⟩) = .error x) :
    ∃ π, IsFirst ((Element.plural id kind offset bs).DefectIn c) π x := by
  obtain ⟨before, b, after, rfl, hbefore, hb⟩ := mapM_eq_error_iff.mp h
  have hmem : b ∈ before ++ b :: after := by simp
  have hpassed : ∀ a ∈ before, (∃ t, compileIn (some ⟨id, offset⟩) a.2 = .ok t) ∧
      PluralKey.ofText? a.1 ≠ none := by
    intro a ha
    obtain ⟨⟨k, t⟩, hok⟩ := hbefore a ha
    obtain ⟨ht, hk⟩ := compilePluralBranch_eq_ok_iff.mp hok
    exact ⟨⟨t, ht⟩, by simp [hk]⟩
  -- the branch is defective itself, or it compiles and its key is no number
  rcases compilePluralBranch_eq_error_iff.mp hb with hbody | ⟨⟨t, ht⟩, hkey, rfl⟩
  · obtain ⟨π, hdefect, hfirst⟩ := ih b hmem hbody
    refine ⟨.branch b.1 :: π, Or.inr (Or.inl ⟨b.1, b.2, π, hmem, rfl, hdefect⟩), ?_⟩
    intro π' x' h'
    -- ascending keys tell whether another branch was compiled before this one or comes after
    -- it
    rcases plural_defect_cases h' with ⟨a, ha, ρ, rfl, hρ⟩ | ⟨a, ha, rfl, _, hnone⟩ | ⟨rfl, _⟩
    · rcases asc.mem_cut ha with ha | rfl | hlt
      · obtain ⟨⟨t, ht⟩, _⟩ := hpassed a ha
        exact absurd hρ (no_defect_in_branch ht ρ x')
      · rcases hfirst ρ x' hρ with ⟨rfl, rfl⟩ | hlater
        · exact Or.inl ⟨rfl, rfl⟩
        · exact Or.inr (.cons hlater)
      · exact Or.inr (.rel (.branch hlt))
    · rcases asc.mem_cut ha with ha | rfl | hlt
      · exact absurd hnone (hpassed a ha).2
      · exact Or.inr (.rel (.branch_key (String.le_refl _)))
      · exact Or.inr (.rel (.branch_key (String.not_lt.mp (String.lt_asymm hlt))))
    · exact Or.inr (.rel .branch_fallback)
  · obtain ⟨cs, hcs, hx⟩ := PluralKey.ofText?_eq_none_iff.mp hkey
    refine ⟨[.key b.1], Or.inl (.exactKey hmem hcs hx), ?_⟩
    intro π' x' h'
    rcases plural_defect_cases h' with ⟨a, ha, ρ, rfl, hρ⟩ | ⟨a, ha, rfl, rfl, hnone⟩ | ⟨rfl, _⟩
    · rcases asc.mem_cut ha with ha | rfl | hlt
      · obtain ⟨⟨t, ht⟩, _⟩ := hpassed a ha
        exact absurd hρ (no_defect_in_branch ht ρ x')
      · exact absurd hρ (no_defect_in_branch ht ρ x')
      · exact Or.inr (.rel (.key_branch hlt))
    · rcases asc.mem_cut ha with ha | rfl | hlt
      · exact absurd hnone (hpassed a ha).2
      · exact Or.inl ⟨rfl, rfl⟩
      · exact Or.inr (.rel (.key hlt))
    · exact Or.inr (.rel .key_fallback)

/-- If all branches of a plural compile, a missing fallback is its only defect. -/
theorem first_of_plural_fallback {bs' : List (PluralKey × Template)}
    (h : bs.mapM (compilePluralBranch ⟨id, offset⟩) = .ok bs')
    (hnone : ¬ ∃ b ∈ bs, b.1 = otherKey) :
    IsFirst ((Element.plural id kind offset bs).DefectIn c) [.fallback] (.missingOther id) := by
  refine ⟨Or.inl (.pluralFallback hnone), fun π x hdefect => ?_⟩
  -- with all branches compiled, neither a body nor a key can be at fault
  rcases plural_defect_cases hdefect with ⟨b, hb, ρ, _, hρ⟩ | ⟨b, hb, _, _, hkey⟩ | ⟨rfl, rfl, _⟩
  · obtain ⟨⟨k, t⟩, _, hok⟩ := ok_of_mapM_ok h b hb
    exact absurd hρ (no_defect_in_branch (compilePluralBranch_eq_ok_iff.mp hok).1 ρ x)
  · obtain ⟨⟨k, t⟩, _, hok⟩ := ok_of_mapM_ok h b hb
    rw [(compilePluralBranch_eq_ok_iff.mp hok).2] at hkey
    cases hkey
  · exact Or.inl ⟨rfl, rfl⟩

theorem first_of_select_branches (asc : Table.Ascending bs)
    (ih : ∀ b ∈ bs, compileIn c b.2 = .error x → ∃ π, IsFirst (Pattern.DefectIn c b.2) π x)
    (h : bs.mapM (compileSelectBranch c) = .error x) :
    ∃ π, IsFirst ((Element.select id bs).DefectIn c) π x := by
  obtain ⟨before, b, after, rfl, hbefore, hb⟩ := mapM_eq_error_iff.mp h
  have hmem : b ∈ before ++ b :: after := by simp
  obtain ⟨π, hdefect, hfirst⟩ := ih b hmem (compileSelectBranch_eq_error_iff.mp hb)
  refine ⟨.branch b.1 :: π, Or.inr (Or.inl ⟨b.1, b.2, π, hmem, rfl, hdefect⟩), ?_⟩
  intro π' x' h'
  rcases select_defect_cases h' with ⟨a, ha, ρ, rfl, hρ⟩ | ⟨rfl, _⟩
  · rcases asc.mem_cut ha with ha | rfl | hlt
    · obtain ⟨⟨key, t⟩, hok⟩ := hbefore a ha
      exact absurd hρ (no_defect_in_branch (compileSelectBranch_eq_ok_iff.mp hok).1 ρ x')
    · rcases hfirst ρ x' hρ with ⟨rfl, rfl⟩ | hlater
      · exact Or.inl ⟨rfl, rfl⟩
      · exact Or.inr (.cons hlater)
    · exact Or.inr (.rel (.branch hlt))
  · exact Or.inr (.rel .branch_fallback)

/-- If all branches of a select compile, a missing fallback is its only defect. -/
theorem first_of_select_fallback {bs' : List (String × Template)}
    (h : bs.mapM (compileSelectBranch c) = .ok bs') (hnone : ¬ ∃ b ∈ bs, b.1 = otherKey) :
    IsFirst ((Element.select id bs).DefectIn c) [.fallback] (.missingOther id) := by
  refine ⟨Or.inl (.selectFallback hnone), fun π x hdefect => ?_⟩
  rcases select_defect_cases hdefect with ⟨b, hb, ρ, _, hρ⟩ | ⟨rfl, rfl, _⟩
  · obtain ⟨⟨k, t⟩, _, hok⟩ := ok_of_mapM_ok h b hb
    exact absurd hρ (no_defect_in_branch (compileSelectBranch_eq_ok_iff.mp hok).1 ρ x)
  · exact Or.inl ⟨rfl, rfl⟩

end

theorem first_of_compileElement (e : Element) : ∀ c x, Pattern.OrderedParts e →
    compileElement c e = .error x → ∃ π, IsFirst (e.DefectIn c) π x := by
  -- induction over the element, for any context and any error
  induction e using Element.induct with
  | literal | argument | number | moment | emptyTag =>
    intro c x _ h
    cases h
  | pound =>
    intro c x _ h
    cases c with
    | some c => cases h
    | none =>
      obtain rfl : x = .poundOutsidePlural := (Except.error.inj h).symm
      refine ⟨[], Or.inl (.pound rfl), fun π' x' h' => ?_⟩
      cases Element.flaw_of_defectIn rfl rfl h' with
      | pound => exact Or.inl ⟨rfl, rfl⟩
  | plural id kind offset bs ih =>
    intro c x ordered h
    have hbody : ∀ b ∈ bs, ∀ x, compileIn (some ⟨id, offset⟩) b.2 = .error x →
        ∃ π, IsFirst (Pattern.DefectIn (some ⟨id, offset⟩) b.2) π x := by
      intro b hb x
      have hparts := Pattern.ordered_iff.mp (ordered.branches b hb)
      exact first_of_elements fun e he => ih b hb e he _ x (hparts e he)
    rcases compile_plural_eq_error_iff.mp h with hbs | ⟨⟨bs', hbs⟩, hnone, rfl⟩
    · exact first_of_plural_branches ordered.ascending (fun b hb => hbody b hb x) hbs
    · exact ⟨_, first_of_plural_fallback hbs hnone⟩
  | select id bs ih =>
    intro c x ordered h
    have hbody : ∀ b ∈ bs, ∀ x, compileIn c b.2 = .error x →
        ∃ π, IsFirst (Pattern.DefectIn c b.2) π x := by
      intro b hb x
      have hparts := Pattern.ordered_iff.mp (ordered.branches b hb)
      exact first_of_elements fun e he => ih b hb e he _ x (hparts e he)
    rcases compile_select_eq_error_iff.mp h with hbs | ⟨⟨bs', hbs⟩, hnone, rfl⟩
    · exact first_of_select_branches ordered.ascending (fun b hb => hbody b hb x) hbs
    · exact ⟨_, first_of_select_fallback hbs hnone⟩
  | tag id attributes children ih =>
    intro c x ordered h
    rw [compile_tag_eq, map_eq_error_iff] at h
    have hparts := Pattern.ordered_iff.mp ordered.children
    obtain ⟨π, hdefect, hfirst⟩ := first_of_elements (fun e he => ih e he c x (hparts e he)) h
    refine ⟨π, Or.inr (Or.inr hdefect), fun π' x' h' => ?_⟩
    rcases h' with hflaw | ⟨key, body, ρ, hb, _⟩ | hchildren
    · cases hflaw
    · exact absurd hb List.not_mem_nil
    · exact hfirst π' x' hchildren

theorem first_of_compile {p : Pattern} (ordered : p.Ordered) {x : PatternError}
    (h : compile p = .error x) : ∃ π, IsFirst (Pattern.DefectIn none p) π x :=
  first_of_elements
    (fun e he => first_of_compileElement e none x (Pattern.ordered_iff.mp ordered e he)) h

theorem no_defect_of_compile {p : Pattern} {t : Template} (h : compile p = .ok t) (π : Place)
    (x : PatternError) : ¬ Pattern.DefectIn none p π x :=
  no_defect_in_branch h π x

end Template

/-! ### Acceptance and the first defect -/

/-- A pattern is well formed exactly when it has no defect. -/
theorem Pattern.wellFormed_iff {p : Pattern} :
    p.WellFormed ↔ ∀ π x, ¬ DefectIn none p π x := by
  constructor
  · -- each flaw contradicts the one condition that rules it out
    rintro ⟨hpound, hfallback, hexact⟩ π x ⟨top, above, e, ρ, hat, hflaw, _⟩
    cases hflaw with
    | pound hnone =>
      obtain ⟨a, ha, hplural⟩ := hpound top above hat
      exact (innermost_eq_none_iff.mp hnone).2 a ha hplural
    | exactKey hb hkey hx =>
      obtain ⟨v, hv⟩ := hexact top above _ hat trivial _ hb _ hkey
      rw [exactValue?, hv] at hx
      cases hx
    | pluralFallback hnone => exact hnone (hfallback top above _ hat trivial)
    | selectFallback hnone => exact hnone (hfallback top above _ hat trivial)
  · intro h
    have clean : ∀ {top above e}, p.At top above e →
        ∀ ρ x, ¬ Element.Flaw (innermost none above) e ρ x :=
      fun hat ρ x hflaw => h _ x ⟨_, _, _, ρ, hat, hflaw, rfl⟩
    refine ⟨fun top above hat => ?_, fun top above e hat hchoice => ?_,
      fun top above e hat hplural b hb cs hcs => ?_⟩
    · by_contra hnone
      have houtside : innermost none above = none :=
        innermost_eq_none_iff.mpr ⟨rfl, fun a ha hplural => hnone ⟨a, ha, hplural⟩⟩
      exact clean hat _ _ (.pound houtside)
    · by_contra hnone
      cases e with
      | plural => exact clean hat _ _ (.pluralFallback hnone)
      | select => exact clean hat _ _ (.selectFallback hnone)
      | _ => exact hchoice
    · by_contra hnone
      cases e with
      | plural =>
        have hx : exactValue? cs = none :=
          Option.eq_none_iff_forall_ne_some.mpr fun x hx => hnone ⟨x, hx⟩
        exact clean hat _ _ (.exactKey hb hcs hx)
      | _ => exact hplural

namespace Template

/-- **Compiling decides well-formedness and reports the first defect.** The branches
    of a choice are ascending, as tables are. Then a pattern compiles exactly when
    it is well formed, and the error of any other pattern is its first defect: in
    the order of places, elements from left to right, branches by key, all that is
    inside a branch before the key of that branch, and a missing fallback last. -/
theorem compile_reports_first_defect (p : Pattern) (ordered : p.Ordered) :
    ((∃ t, compile p = .ok t) ↔ p.WellFormed) ∧
      ∀ x, compile p = .error x ↔ ∃ π, IsFirst (Pattern.DefectIn none p) π x := by
  refine ⟨⟨fun ⟨t, ht⟩ => ?_, fun hwf => ?_⟩, fun x => ⟨first_of_compile ordered, ?_⟩⟩
  · exact Pattern.wellFormed_iff.mpr (no_defect_of_compile ht)
  · rcases ok_or_error (compile p) with hok | ⟨x, hx⟩
    · exact hok
    · obtain ⟨π, hdefect, _⟩ := first_of_compile ordered hx
      exact absurd hdefect (Pattern.wellFormed_iff.mp hwf π x)
  · rintro ⟨π, hfirst⟩
    -- the error that is reported is the first one too, and there is only one first defect
    rcases ok_or_error (compile p) with ⟨t, ht⟩ | ⟨y, hy⟩
    · exact absurd hfirst.1 (no_defect_of_compile ht π x)
    · obtain ⟨ρ, hy'⟩ := first_of_compile ordered hy
      rw [hy, hy'.unique hfirst]

/-- Three defects at once: a key that is no number behind a branch that is sound,
    and two choices without a fallback. The key is reported. -/
theorem first_defect_of_broken_plural :
    let p : Pattern :=
      [.plural "n" .cardinal 0 [("=x", [.pound]), ("one", [.select "g" []])], .pound]
    p.Ordered ∧ compile p = .error (.invalidExactKey "n" "=x") ∧ ¬ p.WellFormed ∧
      ∃ π, IsFirst (Pattern.DefectIn none p) π (.invalidExactKey "n" "=x") := by
  intro p
  have hkeys : "=x" < "one" := by decide
  have ordered : p.Ordered := by
    simp only [p, Pattern.ordered_cons_iff, Pattern.ordered_nil, Pattern.orderedParts_iff,
      Element.branches, Element.children, Table.Ascending, List.pairwise_cons, List.Pairwise.nil,
      List.mem_cons, List.not_mem_nil, or_false, forall_eq_or_imp, forall_eq, hkeys,
      IsEmpty.forall_iff, implies_true, and_self]
  have hcompile : compile p = .error (.invalidExactKey "n" "=x") := rfl
  obtain ⟨haccept, hfirst⟩ := compile_reports_first_defect p ordered
  refine ⟨ordered, hcompile, fun hwf => ?_, (hfirst _).mp hcompile⟩
  obtain ⟨t, ht⟩ := haccept.mpr hwf
  rw [hcompile] at ht
  cases ht

end Template

end Phrasebook
