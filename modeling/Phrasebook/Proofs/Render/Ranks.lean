import Phrasebook.Proofs.Locale.Ranks
import Phrasebook.Proofs.Render.FewerBranches

/-! # Ranks in two ways

    The rank of an integer can be asked of the localizer as a style of numbers, or put
    together by a plural for ranking with the suffixes in its branches. In English both
    show the same. They ask for the same plural category, and a category without a branch
    has the suffix of the fallback.
-/

namespace Phrasebook

/-! ### Branches with suffixes -/

/-- The number of a plural, with a suffix behind it. -/
def suffixed (suffix : String) : Pattern :=
  [.pound, .literal suffix]

/-- The branches with the suffixes of English ranks. -/
def rankBranches : Branches :=
  [("few", suffixed "rd"), ("one", suffixed "st"), ("other", suffixed "th"),
    ("two", suffixed "nd")]

theorem ascending_rankBranches : Table.Ascending rankBranches := by
  unfold Table.Ascending rankBranches
  decide

/-- A category has its suffix under its own keyword, or else under the fallback. -/
theorem suffixed_mem_rankBranches (c : Category) :
    (if c.keyword ∈ rankBranches.map Prod.fst then c.keyword else otherKey,
      suffixed (Spellout.ordinalSuffix c)) ∈ rankBranches := by
  cases c <;> simp [rankBranches, Category.keyword, otherKey, Spellout.ordinalSuffix]

theorem exactKey?_rankBranches {key : String} (h : key ∈ rankBranches.map Prod.fst) :
    exactKey? key = none := by
  simp only [rankBranches, List.map_cons, List.map_nil, List.mem_cons, List.not_mem_nil,
    or_false] at h
  rcases h with rfl | rfl | rfl | rfl
  · exact Category.few.exactKey?_keyword
  · exact Category.one.exactKey?_keyword
  · exact exactKey?_otherKey
  · exact Category.two.exactKey?_keyword

namespace Template

theorem exists_compile_rankBranches (id : String) :
    ∃ t, compileElement none (.plural id .ordinal 0 rankBranches) = .ok t := by
  apply exists_compile_plural_iff.mpr
  constructor
  · intro b hb
    simp only [rankBranches, List.mem_cons, List.not_mem_nil, or_false] at hb
    rcases hb with rfl | rfl | rfl | rfl
    all_goals exact ⟨⟨_, rfl⟩, _, rfl⟩
  · exact ⟨("other", suffixed "th"), by simp [rankBranches], rfl⟩

/-- A branch with a suffix shows the number of its plural and the suffix. -/
theorem render_suffixed {env : Environment} {id : String} {n : Int64}
    (h : env.arguments id = some (.integer n)) {digits : String}
    (hnumber : env.localizer.number .plain (.integer n) = .ok digits) {suffix : String}
    {t : Template} (hcompile : compileIn (some ⟨id, 0⟩) (suffixed suffix) = .ok t) :
    t.render env = pure (.text (digits ++ suffix)) := by
  obtain rfl : ofParts [number id 0 .plain, literal suffix] = t := Except.ok.inj hcompile
  have hpound : (number id 0 .plain).render env = pure (.text digits) :=
    render_number_of_ok h rfl hnumber
  have hliteral : (literal suffix).render env = pure (.text suffix) :=
    render_literal env suffix
  have hjoined : Fragment.ofParts [.text digits, .text suffix] = .text (digits ++ suffix) := by
    simp [Fragment.ofParts, Fragment.concat, Fragment.texts?]
  rw [render_ofParts, List.mapM_cons, List.mapM_cons, List.mapM_nil, hpound, hliteral, ← hjoined]
  rfl

/-- If a plural for ranking asks of an integer, then with these branches it shows the integer
    and the suffix for its category. -/
theorem render_rankBranches {env : Environment} {id : String} {n : Int64}
    (h : env.arguments id = some (.integer n)) {digits : String}
    (hnumber : env.localizer.number .plain (.integer n) = .ok digits) {c : Category}
    (hcategory : env.localizer.category .ordinal (.integer n) = .ok c) {t : Template}
    (hcompile : compileElement none (.plural id .ordinal 0 rankBranches) = .ok t) :
    t.render env = pure (.text (digits ++ Spellout.ordinalSuffix c)) := by
  obtain ⟨branch, hcompiled, -, hrender⟩ :=
    exists_branches_of_plural ascending_rankBranches hcompile
  have hsuffix := hcompiled _ (suffixed_mem_rankBranches c)
  -- no branch is for a value and some are for a category, so the localizer is asked
  have hnone : ∀ key ∈ rankBranches.map Prod.fst, ¬ KeyEquals (Binary64.ofInt n.toInt) key :=
    fun key hkey => not_keyEquals (exactKey?_rankBranches hkey) _
  have hword : ∃ key ∈ rankBranches.map Prod.fst, key ≠ otherKey ∧ exactKey? key = none := by
    have hone : "one" ∈ rankBranches.map Prod.fst := by simp [rankBranches]
    exact ⟨"one", hone, by decide, exactKey?_rankBranches hone⟩
  have hminus : (Quantity.integer n).minus 0 = .integer n := rfl
  -- with no key for the number itself, the category tells the branch
  have hkey : env.pluralKey id .ordinal 0 (rankBranches.map Prod.fst) =
      .ok (if c.keyword ∈ rankBranches.map Prod.fst then c.keyword else otherKey) := by
    rw [Environment.pluralKey_of_word h rfl hnone hword, hminus, hcategory]
  rw [hrender, RenderM.argument?, h, hkey]
  exact render_suffixed h hnumber hsuffix

theorem compile_singleton {e : Element} {t : Template} (h : compileElement none e = .ok t) :
    compile [e] = .ok t := by
  unfold compile
  rw [compileAll, h]
  rfl

end Template

/-- **Ranks in two ways.** For an integer the ordinal style and a plural with the suffixes of
    English in its branches render alike, in any locale of English. Both compile, and show
    the rank of the integer in the locale. -/
theorem rank_branches_render_as_style (l : Locale) (hlanguage : l.tag.language = "en")
    {args : Arguments} {id : String} {n : Int64} (h : args id = some (.integer n)) :
    ∃ style branches rank, Template.compile [.number id 0 .ordinal] = .ok style ∧
      Template.compile [.plural id .ordinal 0 rankBranches] = .ok branches ∧
      branches.render ⟨args, l.localizer⟩ = style.render ⟨args, l.localizer⟩ ∧
      l.number .ordinal (.integer n) = .ok rank ∧
      style.run ⟨args, l.localizer⟩ = .ok ⟨.text rank, .empty⟩ := by
  have hplain := l.plain_of_integer n
  have hrank := Locale.ordinal_of_integer hlanguage n
  -- the plural asks for the category that the style goes by
  have hcategory : l.category .ordinal (.integer n) =
      .ok (categoryBy (l.data.rules .ordinal) (.ofInt n.toInt)) := rfl
  generalize l.decimalText (.ofInt n.toInt) = digits at hplain hrank
  generalize categoryBy (l.data.rules .ordinal) (.ofInt n.toInt) = c at hrank hcategory
  obtain ⟨branches, hbranches⟩ := Template.exists_compile_rankBranches id
  have hplural : branches.render ⟨args, l.localizer⟩ =
      pure (.text (digits ++ Spellout.ordinalSuffix c)) :=
    Template.render_rankBranches h hplain hcategory hbranches
  have hstyle : (Template.number id 0 .ordinal).render ⟨args, l.localizer⟩ =
      pure (.text (digits ++ Spellout.ordinalSuffix c)) :=
    Template.render_number_of_ok h rfl hrank
  have hnumber : Template.compileElement none (.number id 0 .ordinal) =
      .ok (.number id 0 .ordinal) := by rw [Template.compileElement]
  refine ⟨_, branches, _, Template.compile_singleton hnumber,
    Template.compile_singleton hbranches, hplural.trans hstyle.symm, hrank, ?_⟩
  unfold Template.run
  rw [hstyle]
  rfl

/-- Minus thirteen in both ways: its last digit is that of the third, but it takes the
    fallback. -/
theorem minus_thirteenth_in_two_ways :
    let env : Environment := ⟨fun _ => some (.integer (-13)), Locale.english.localizer⟩
    ∃ style branches, Template.compile [.number "n" 0 .ordinal] = .ok style ∧
      Template.compile [.plural "n" .ordinal 0 rankBranches] = .ok branches ∧
      branches.render env = style.render env ∧
      style.run env = .ok ⟨.text "-13th", .empty⟩ := by
  intro env
  have hargument : env.arguments "n" = some (.integer (-13)) := rfl
  obtain ⟨style, branches, rank, hstyle, hbranches, hrender, hrank, hrun⟩ :=
    rank_branches_render_as_style Locale.english rfl hargument
  have hshown : Locale.english.number .ordinal (.integer (-13)) = .ok "-13th" := by decide
  obtain rfl := Except.ok.inj (hshown.symm.trans hrank)
  exact ⟨style, branches, hstyle, hbranches, hrender, hrun⟩

end Phrasebook
