import Phrasebook.Proofs.Traversal
import Phrasebook.Template.Compile

/-! # What compiling does at each node

    The compiler as walks along lists of elements and branches, and for every
    kind of node that can fail the exact conditions under which it succeeds and
    under which it fails with a given error. Later statements about compiling
    rest on these equations and do not open the compiler.
-/

namespace Phrasebook

/-! ### Reading branch keys -/

namespace PluralKey

theorem otherKey_toList_ne (cs : List Char) : otherKey.toList ≠ '=' :: cs := by
  simp [otherKey]

theorem ofText?_eq_other_iff {key : String} : ofText? key = some .other ↔ key = otherKey := by
  unfold ofText?
  split
  · simp_all
  · split <;> simp_all

theorem ofText?_eq_exact_iff {key : String} {x : Binary64} :
    ofText? key = some (.exact x) ↔ ∃ cs, key.toList = '=' :: cs ∧ exactValue? cs = some x := by
  unfold ofText?
  split
  · next h =>
    subst h
    simp only [Option.some.injEq, reduceCtorEq, false_iff, not_exists, not_and]
    exact fun cs hcs => absurd hcs (otherKey_toList_ne cs)
  · split <;> simp_all

theorem ofText?_eq_keyword_iff {key word : String} :
    ofText? key = some (.keyword word) ↔
      word = key ∧ key ≠ otherKey ∧ ∀ cs, key.toList ≠ '=' :: cs := by
  unfold ofText?
  split
  · simp_all
  · split
    · simp_all
    · next hne => simp_all [eq_comm]

theorem ofText?_eq_none_iff {key : String} :
    ofText? key = none ↔ ∃ cs, key.toList = '=' :: cs ∧ exactValue? cs = none := by
  unfold ofText?
  split
  · next h =>
    subst h
    simp only [reduceCtorEq, false_iff, not_exists, not_and]
    exact fun cs hcs => absurd hcs (otherKey_toList_ne cs)
  · split <;> simp_all

end PluralKey

/-! ### Branches by what their keys ask for -/

section
variable {α : Type} (a : α) (bs : List (PluralKey × α))

@[simp] theorem exactBranches_nil : exactBranches ([] : List (PluralKey × α)) = [] := rfl

@[simp] theorem exactBranches_exact (x : Binary64) :
    exactBranches ((.exact x, a) :: bs) = (x, a) :: exactBranches bs := rfl

@[simp] theorem exactBranches_keyword (word : String) :
    exactBranches ((.keyword word, a) :: bs) = exactBranches bs := rfl

@[simp] theorem exactBranches_other :
    exactBranches ((.other, a) :: bs) = exactBranches bs := rfl

@[simp] theorem keyedBranches_nil : keyedBranches ([] : List (PluralKey × α)) = [] := rfl

@[simp] theorem keyedBranches_exact (x : Binary64) :
    keyedBranches ((.exact x, a) :: bs) = keyedBranches bs := rfl

@[simp] theorem keyedBranches_keyword (word : String) :
    keyedBranches ((.keyword word, a) :: bs) = (word, a) :: keyedBranches bs := rfl

@[simp] theorem keyedBranches_other :
    keyedBranches ((.other, a) :: bs) = keyedBranches bs := rfl

end

namespace Template

/-! ### Lists of elements -/

def compileIn (parent : Option PluralContext) (p : Pattern) : Except PatternError Template :=
  (compileAll parent p).map .ofParts

theorem compileAll_eq (parent : Option PluralContext) (es : List Element) :
    compileAll parent es = es.mapM (compileElement parent) := by
  induction es with
  | nil => simp [compileAll, pure, Except.pure]
  | cons e es ih => simp only [compileAll, List.mapM_cons, ih]

theorem compileIn_eq_ok_iff {parent : Option PluralContext} {p : Pattern} {t : Template} :
    compileIn parent p = .ok t ↔
      ∃ ts, p.mapM (compileElement parent) = .ok ts ∧ ofParts ts = t := by
  unfold compileIn
  rw [map_eq_ok_iff, compileAll_eq]

theorem compileIn_eq_error_iff {parent : Option PluralContext} {p : Pattern} {x : PatternError} :
    compileIn parent p = .error x ↔ p.mapM (compileElement parent) = .error x := by
  unfold compileIn
  rw [map_eq_error_iff, compileAll_eq]

/-! ### Branches -/

/-- A branch of a plural, checked before its key is read. -/
def compilePluralBranch (context : PluralContext) (b : String × List Element) :
    Except PatternError (PluralKey × Template) := do
  let t ← compileIn (some context) b.2
  match PluralKey.ofText? b.1 with
  | none => throw (.invalidExactKey context.id b.1)
  | some k => return (k, t)

def compileSelectBranch (parent : Option PluralContext) (b : String × List Element) :
    Except PatternError (String × Template) :=
  (compileIn parent b.2).map fun t => (b.1, t)

theorem compilePluralBranches_eq (context : PluralContext) (bs : List (String × List Element)) :
    compilePluralBranches context bs = bs.mapM (compilePluralBranch context) := by
  induction bs with
  | nil => simp [compilePluralBranches, pure, Except.pure]
  | cons b bs ih =>
    obtain ⟨key, es⟩ := b
    rw [compilePluralBranches, List.mapM_cons, ih]
    simp only [compilePluralBranch, compileIn]
    cases compileAll (some context) es with
    | error x => rfl
    | ok ts =>
      cases PluralKey.ofText? key with
      | none => rfl
      | some k => rfl

theorem compileSelectBranches_eq (parent : Option PluralContext)
    (bs : List (String × List Element)) :
    compileSelectBranches parent bs = bs.mapM (compileSelectBranch parent) := by
  induction bs with
  | nil => simp [compileSelectBranches, pure, Except.pure]
  | cons b bs ih =>
    obtain ⟨key, es⟩ := b
    rw [compileSelectBranches, List.mapM_cons, ih]
    simp only [compileSelectBranch, compileIn]
    cases compileAll parent es with
    | error x => rfl
    | ok ts => rfl

theorem compilePluralBranch_eq_ok_iff {context : PluralContext} {b : String × List Element}
    {k : PluralKey} {t : Template} :
    compilePluralBranch context b = .ok (k, t) ↔
      compileIn (some context) b.2 = .ok t ∧ PluralKey.ofText? b.1 = some k := by
  unfold compilePluralBranch
  rw [bind_eq_ok_iff]
  cases PluralKey.ofText? b.1 with
  | none => simp [throw, throwThe, MonadExceptOf.throw]
  | some k' => simp [pure, Except.pure]

theorem compilePluralBranch_eq_error_iff {context : PluralContext} {b : String × List Element}
    {x : PatternError} :
    compilePluralBranch context b = .error x ↔
      compileIn (some context) b.2 = .error x ∨
        (∃ t, compileIn (some context) b.2 = .ok t) ∧ PluralKey.ofText? b.1 = none ∧
          x = .invalidExactKey context.id b.1 := by
  unfold compilePluralBranch
  rw [bind_eq_error_iff]
  cases PluralKey.ofText? b.1 with
  | none => simp [throw, throwThe, MonadExceptOf.throw, eq_comm]
  | some k' => simp [pure, Except.pure]

theorem compileSelectBranch_eq_ok_iff {parent : Option PluralContext}
    {b : String × List Element} {key : String} {t : Template} :
    compileSelectBranch parent b = .ok (key, t) ↔ compileIn parent b.2 = .ok t ∧ b.1 = key := by
  unfold compileSelectBranch
  rw [map_eq_ok_iff]
  constructor
  · rintro ⟨a, ha, h⟩
    obtain ⟨rfl, rfl⟩ := Prod.mk.inj h
    exact ⟨ha, rfl⟩
  · rintro ⟨ht, rfl⟩
    exact ⟨t, ht, rfl⟩

theorem compileSelectBranch_eq_error_iff {parent : Option PluralContext}
    {b : String × List Element} {x : PatternError} :
    compileSelectBranch parent b = .error x ↔ compileIn parent b.2 = .error x :=
  map_eq_error_iff

/-! ### Fallback branches -/

/-- Among the compiled branches of a plural one is the fallback exactly when some
    branch stands under the fallback key. -/
theorem exists_lookup_other_iff {context : PluralContext} {bs : List (String × List Element)}
    {bs' : List (PluralKey × Template)} (h : bs.mapM (compilePluralBranch context) = .ok bs') :
    (∃ other, bs'.lookup .other = some other) ↔ ∃ b ∈ bs, b.1 = otherKey := by
  -- source branches and compiled branches side by side
  have hsteps := mapM_eq_ok_iff.mp h
  clear h
  induction hsteps with
  | nil => simp
  | @cons b b' bs bs' hb _ ih =>
    obtain ⟨k, t⟩ := b'
    obtain ⟨_, hkey⟩ := compilePluralBranch_eq_ok_iff.mp hb
    simp only [List.mem_cons, exists_eq_or_imp, ← ih]
    rw [← PluralKey.ofText?_eq_other_iff, hkey, List.lookup_cons]
    by_cases hk : k = .other
    · simp [hk]
    · have hne : (PluralKey.other == k) = false := by simpa using fun h => hk h.symm
      simp [hne, hk]

theorem exists_lookup_otherKey_iff {parent : Option PluralContext}
    {bs : List (String × List Element)} {bs' : List (String × Template)}
    (h : bs.mapM (compileSelectBranch parent) = .ok bs') :
    (∃ other, bs'.lookup otherKey = some other) ↔ ∃ b ∈ bs, b.1 = otherKey := by
  have hsteps := mapM_eq_ok_iff.mp h
  clear h
  induction hsteps with
  | nil => simp
  | @cons b b' bs bs' hb _ ih =>
    obtain ⟨k, t⟩ := b'
    obtain ⟨_, rfl⟩ := compileSelectBranch_eq_ok_iff.mp hb
    simp only [List.mem_cons, exists_eq_or_imp, ← ih, Table.lookup_entry]
    by_cases hk : otherKey = b.1
    · simp [hk]
    · simp [hk, Ne.symm hk]

/-- A choice fails in one of its branches, or for want of a fallback once all of
    its branches are compiled. -/
theorem fallback_eq_error_iff {β : Type} {walk : Except PatternError β}
    {fallback : β → Option Template} {make : β → Template → Template} {found : Prop}
    {e x : PatternError}
    (hfound : ∀ bs', walk = .ok bs' → ((∃ other, fallback bs' = some other) ↔ found)) :
    (do
      let bs' ← walk
      match fallback bs' with
      | some other => return make bs' other
      | none => throw e) = .error x ↔
      walk = .error x ∨ (∃ bs', walk = .ok bs') ∧ ¬ found ∧ x = e := by
  -- the fallback is looked for only once the walk has succeeded
  rw [bind_eq_error_iff, ← exists_and_right]
  refine or_congr_right (exists_congr fun bs' => and_congr_right fun hwalk => ?_)
  rw [← hfound bs' hwalk]
  cases fallback bs' with
  | none => simp [throw, throwThe, MonadExceptOf.throw, eq_comm]
  | some other => simp [pure, Except.pure]

/-! ### Choices and tags -/

section
variable {parent : Option PluralContext} {id attributes : String} {kind : PluralKind}
  {offset : Int64} {bs : List (String × List Element)} {t : Template} {x : PatternError}

theorem compile_plural_eq_ok_iff :
    compileElement parent (.plural id kind offset bs) = .ok t ↔
      ∃ bs' other, bs.mapM (compilePluralBranch ⟨id, offset⟩) = .ok bs' ∧
        bs'.lookup .other = some other ∧
        t = .plural id kind offset (exactBranches bs') (keyedBranches bs') other := by
  rw [compileElement, compilePluralBranches_eq, bind_eq_ok_iff]
  refine exists_congr fun bs' => ?_
  cases bs'.lookup .other with
  | none => simp [throw, throwThe, MonadExceptOf.throw]
  | some other => simp [pure, Except.pure, eq_comm]

theorem compile_plural_eq_error_iff :
    compileElement parent (.plural id kind offset bs) = .error x ↔
      bs.mapM (compilePluralBranch ⟨id, offset⟩) = .error x ∨
        (∃ bs', bs.mapM (compilePluralBranch ⟨id, offset⟩) = .ok bs') ∧
          (¬ ∃ b ∈ bs, b.1 = otherKey) ∧ x = .missingOther id := by
  rw [compileElement, compilePluralBranches_eq]
  exact fallback_eq_error_iff fun _ => exists_lookup_other_iff

theorem compile_select_eq_ok_iff :
    compileElement parent (.select id bs) = .ok t ↔
      ∃ bs' other, bs.mapM (compileSelectBranch parent) = .ok bs' ∧
        bs'.lookup otherKey = some other ∧
        t = .select id (bs'.filter fun b => b.1 != otherKey) other := by
  rw [compileElement, compileSelectBranches_eq, bind_eq_ok_iff]
  refine exists_congr fun bs' => ?_
  cases bs'.lookup otherKey with
  | none => simp [throw, throwThe, MonadExceptOf.throw]
  | some other => simp [pure, Except.pure, eq_comm]

theorem compile_select_eq_error_iff :
    compileElement parent (.select id bs) = .error x ↔
      bs.mapM (compileSelectBranch parent) = .error x ∨
        (∃ bs', bs.mapM (compileSelectBranch parent) = .ok bs') ∧
          (¬ ∃ b ∈ bs, b.1 = otherKey) ∧ x = .missingOther id := by
  rw [compileElement, compileSelectBranches_eq]
  exact fallback_eq_error_iff fun _ => exists_lookup_otherKey_iff

theorem compile_tag_eq {children : List Element} :
    compileElement parent (.tag id attributes children) =
      (compileIn parent children).map (.tag id attributes) := by
  rw [compileElement, compileIn]
  cases compileAll parent children with
  | error x => rfl
  | ok ts => rfl

/-! ### What compiles at all -/

theorem exists_compileIn_iff {p : Pattern} :
    (∃ t, compileIn parent p = .ok t) ↔ ∀ e ∈ p, ∃ t, compileElement parent e = .ok t := by
  simp only [compileIn_eq_ok_iff, mapM_eq_ok_iff]
  rw [exists_comm, ← exists_forall₂_iff]
  simp

/-- A plural compiles exactly when its branches and their keys do and one is the fallback. -/
theorem exists_compile_plural_iff :
    (∃ t, compileElement parent (.plural id kind offset bs) = .ok t) ↔
      (∀ b ∈ bs, (∃ t, compileIn (some ⟨id, offset⟩) b.2 = .ok t) ∧
        ∃ k, PluralKey.ofText? b.1 = some k) ∧ ∃ b ∈ bs, b.1 = otherKey := by
  -- a branch compiles if its body does and its key can be read
  have hbranches : (∃ bs', bs.mapM (compilePluralBranch ⟨id, offset⟩) = .ok bs') ↔
      ∀ b ∈ bs, (∃ t, compileIn (some ⟨id, offset⟩) b.2 = .ok t) ∧
        ∃ k, PluralKey.ofText? b.1 = some k := by
    simp only [mapM_eq_ok_iff, exists_forall₂_iff, Prod.exists, compilePluralBranch_eq_ok_iff,
      exists_and_left, exists_and_right, and_comm]
  rw [← hbranches]
  simp only [compile_plural_eq_ok_iff]
  constructor
  · rintro ⟨t, bs', other, hbs, hother, _⟩
    exact ⟨⟨bs', hbs⟩, (exists_lookup_other_iff hbs).mp ⟨other, hother⟩⟩
  · rintro ⟨⟨bs', hbs⟩, hother⟩
    obtain ⟨other, hother⟩ := (exists_lookup_other_iff hbs).mpr hother
    exact ⟨_, bs', other, hbs, hother, rfl⟩

/-- A select compiles exactly when its branches do and one is the fallback. -/
theorem exists_compile_select_iff :
    (∃ t, compileElement parent (.select id bs) = .ok t) ↔
      (∀ b ∈ bs, ∃ t, compileIn parent b.2 = .ok t) ∧ ∃ b ∈ bs, b.1 = otherKey := by
  have hbranches : (∃ bs', bs.mapM (compileSelectBranch parent) = .ok bs') ↔
      ∀ b ∈ bs, ∃ t, compileIn parent b.2 = .ok t := by
    simp only [mapM_eq_ok_iff, exists_forall₂_iff, Prod.exists, compileSelectBranch_eq_ok_iff]
    simp
  rw [← hbranches]
  simp only [compile_select_eq_ok_iff]
  constructor
  · rintro ⟨t, bs', other, hbs, hother, _⟩
    exact ⟨⟨bs', hbs⟩, (exists_lookup_otherKey_iff hbs).mp ⟨other, hother⟩⟩
  · rintro ⟨⟨bs', hbs⟩, hother⟩
    obtain ⟨other, hother⟩ := (exists_lookup_otherKey_iff hbs).mpr hother
    exact ⟨_, bs', other, hbs, hother, rfl⟩

end

end Template

end Phrasebook
