import Phrasebook.Proofs.Template.Leaves

/-! # The tags of a template

    Which names the tags in a template have, in all of its branches. Compiling
    neither adds a tag nor renames one: they go by names that tags of the pattern
    go by.
-/

namespace Phrasebook

/-- All tags in a template, at whatever depth and in whatever branch, go by names
    of a given kind. -/
inductive Template.TagsIn (K : String → Prop) : Template → Prop
  | literal (text : String) : TagsIn K (.literal text)
  | argument (id : String) : TagsIn K (.argument id)
  | number (id : String) (offset : Int64) (style : NumberStyle) :
      TagsIn K (.number id offset style)
  | moment (id : String) (kind : TemporalKind) (style : TemporalStyle) :
      TagsIn K (.moment id kind style)
  | sequence {ts : List Template} (h : ∀ t ∈ ts, TagsIn K t) : TagsIn K (.sequence ts)
  | plural {id : String} {kind : PluralKind} {offset : Int64}
      {exact : List (Binary64 × Template)} {keyed : List (String × Template)} {other : Template}
      (hexact : ∀ b ∈ exact, TagsIn K b.2) (hkeyed : ∀ b ∈ keyed, TagsIn K b.2)
      (hother : TagsIn K other) : TagsIn K (.plural id kind offset exact keyed other)
  | select {id : String} {branches : List (String × Template)} {other : Template}
      (hbranches : ∀ b ∈ branches, TagsIn K b.2) (hother : TagsIn K other) :
      TagsIn K (.select id branches other)
  | tag {id attributes : String} {children : Template} (hid : K id)
      (hchildren : TagsIn K children) : TagsIn K (.tag id attributes children)
  | emptyTag {id attributes : String} (hid : K id) : TagsIn K (.emptyTag id attributes)

/-- A tag of a given name is in a template, at whatever depth and in whatever branch. -/
inductive Template.HasTag (id : String) : Template → Prop
  | part {ts : List Template} {t : Template} (ht : t ∈ ts) (h : HasTag id t) :
      HasTag id (.sequence ts)
  | exact {i : String} {kind : PluralKind} {offset : Int64}
      {exact : List (Binary64 × Template)} {keyed : List (String × Template)} {other : Template}
      {b : Binary64 × Template} (hb : b ∈ exact) (h : HasTag id b.2) :
      HasTag id (.plural i kind offset exact keyed other)
  | keyed {i : String} {kind : PluralKind} {offset : Int64}
      {exact : List (Binary64 × Template)} {keyed : List (String × Template)} {other : Template}
      {b : String × Template} (hb : b ∈ keyed) (h : HasTag id b.2) :
      HasTag id (.plural i kind offset exact keyed other)
  | other {i : String} {kind : PluralKind} {offset : Int64}
      {exact : List (Binary64 × Template)} {keyed : List (String × Template)} {other : Template}
      (h : HasTag id other) : HasTag id (.plural i kind offset exact keyed other)
  | branch {i : String} {branches : List (String × Template)} {other : Template}
      {b : String × Template} (hb : b ∈ branches) (h : HasTag id b.2) :
      HasTag id (.select i branches other)
  | otherwise {i : String} {branches : List (String × Template)} {other : Template}
      (h : HasTag id other) : HasTag id (.select i branches other)
  | tag (attributes : String) (children : Template) : HasTag id (.tag id attributes children)
  | child {i attributes : String} {children : Template} (h : HasTag id children) :
      HasTag id (.tag i attributes children)
  | emptyTag (attributes : String) : HasTag id (.emptyTag id attributes)

theorem Template.tagsIn_of_hasTag {K : String → Prop} {t : Template}
    (h : ∀ id, t.HasTag id → K id) : t.TagsIn K := by
  -- induction over the template: a tag inside a part is a tag of the whole
  induction t using Template.induct with
  | literal text => exact .literal text
  | argument id => exact .argument id
  | number id offset style => exact .number id offset style
  | moment id kind style => exact .moment id kind style
  | sequence ts ih => exact .sequence fun t ht => ih t ht fun id hid => h id (.part ht hid)
  | plural id kind offset exact keyed other ihExact ihKeyed ihOther =>
    refine .plural ?_ ?_ ?_
    · exact fun b hb => ihExact b hb fun id hid => h id (.exact hb hid)
    · exact fun b hb => ihKeyed b hb fun id hid => h id (.keyed hb hid)
    · exact ihOther fun id hid => h id (.other hid)
  | select id branches other ihBranches ihOther =>
    refine .select ?_ ?_
    · exact fun b hb => ihBranches b hb fun id hid => h id (.branch hb hid)
    · exact ihOther fun id hid => h id (.otherwise hid)
  | tag id attributes children ih =>
    exact .tag (h id (.tag attributes children)) (ih fun id hid => h id (.child hid))
  | emptyTag id attributes => exact .emptyTag (h id (.emptyTag attributes))

theorem Template.tagsIn_of_forall {K : String → Prop} (h : ∀ id, K id) (t : Template) :
    t.TagsIn K :=
  tagsIn_of_hasTag fun id _ => h id

/-- The tag that an element is, if it is one, goes by a name of a given kind. -/
def Element.NamedIn (K : String → Prop) (e : Element) : Prop :=
  ∀ id, e.tagName? = some id → K id

namespace Template

variable {K : String → Prop}

theorem TagsIn.ofParts {ts : List Template} (h : ∀ t ∈ ts, TagsIn K t) : TagsIn K (ofParts ts) := by
  rcases ts with _ | ⟨t, _ | ⟨t', ts⟩⟩
  · exact .sequence h
  · exact h t List.mem_cons_self
  · exact .sequence h

theorem mem_exactBranches {α : Type} {bs : List (PluralKey × α)} {b : Binary64 × α}
    (h : b ∈ exactBranches bs) : (.exact b.1, b.2) ∈ bs := by
  induction bs with
  | nil => exact absurd h List.not_mem_nil
  | cons head bs ih =>
    obtain ⟨k, a⟩ := head
    cases k with
    | exact x =>
      rw [exactBranches_exact] at h
      rcases List.mem_cons.mp h with rfl | h
      · exact List.mem_cons_self
      · exact List.mem_cons_of_mem _ (ih h)
    | keyword word => exact List.mem_cons_of_mem _ (ih h)
    | other => exact List.mem_cons_of_mem _ (ih h)

theorem mem_keyedBranches {α : Type} {bs : List (PluralKey × α)} {b : String × α}
    (h : b ∈ keyedBranches bs) : (.keyword b.1, b.2) ∈ bs := by
  induction bs with
  | nil => exact absurd h List.not_mem_nil
  | cons head bs ih =>
    obtain ⟨k, a⟩ := head
    cases k with
    | keyword word =>
      rw [keyedBranches_keyword] at h
      rcases List.mem_cons.mp h with rfl | h
      · exact List.mem_cons_self
      · exact List.mem_cons_of_mem _ (ih h)
    | exact x => exact List.mem_cons_of_mem _ (ih h)
    | other => exact List.mem_cons_of_mem _ (ih h)

/-- The tags of a template go by names of a kind, if those of its elements do. -/
theorem tagsIn_of_compileIn {c : Option PluralContext} {p : Pattern} {t : Template}
    (ih : ∀ e ∈ p, ∀ t, compileElement c e = .ok t → TagsIn K t) (h : compileIn c p = .ok t) :
    TagsIn K t := by
  obtain ⟨ts, hts, rfl⟩ := compileIn_eq_ok_iff.mp h
  refine .ofParts fun t ht => ?_
  obtain ⟨e, he, hstep⟩ := step_of_mem_mapM_ok hts t ht
  exact ih e he t hstep

theorem tagsIn_of_compileElement (e : Element) : ∀ c t,
    Pattern.Throughout (Element.NamedIn K) e → compileElement c e = .ok t → TagsIn K t := by
  induction e using Element.induct with
  | literal | argument | number | moment =>
    intro c t _ h
    cases h
    constructor
  | pound =>
    intro c t _ h
    cases c with
    | none => cases h
    | some around =>
      cases h
      constructor
  | plural id kind offset bs ih =>
    intro c t hnames h
    obtain ⟨bs', other, hbs, hother, rfl⟩ := compile_plural_eq_ok_iff.mp h
    have hbranches : ∀ b ∈ bs', TagsIn K b.2 := by
      intro b' hb'
      obtain ⟨b, hb, hstep⟩ := step_of_mem_mapM_ok hbs b' hb'
      have hinside := Pattern.everywhere_iff.mp (hnames.branches b hb)
      exact tagsIn_of_compileIn (fun e he t => ih b hb e he _ t (hinside e he))
        (compilePluralBranch_eq_ok_iff.mp hstep).1
    exact .plural (fun b hb => hbranches _ (mem_exactBranches hb))
      (fun b hb => hbranches _ (mem_keyedBranches hb))
      (hbranches _ (Table.mem_of_lookup hother))
  | select id bs ih =>
    intro c t hnames h
    obtain ⟨bs', other, hbs, hother, rfl⟩ := compile_select_eq_ok_iff.mp h
    have hbranches : ∀ b ∈ bs', TagsIn K b.2 := by
      intro b' hb'
      obtain ⟨b, hb, hstep⟩ := step_of_mem_mapM_ok hbs b' hb'
      have hinside := Pattern.everywhere_iff.mp (hnames.branches b hb)
      exact tagsIn_of_compileIn (fun e he t => ih b hb e he _ t (hinside e he))
        (compileSelectBranch_eq_ok_iff.mp hstep).1
    exact .select (fun b hb => hbranches _ (List.mem_filter.mp hb).1)
      (hbranches _ (Table.mem_of_lookup hother))
  | tag id attributes children ih =>
    intro c t hnames h
    rw [compile_tag_eq] at h
    obtain ⟨t', ht', rfl⟩ := map_eq_ok_iff.mp h
    have hinside := Pattern.everywhere_iff.mp hnames.children
    exact .tag (hnames.self id rfl)
      (tagsIn_of_compileIn (fun e he t => ih e he c t (hinside e he)) ht')
  | emptyTag id attributes =>
    intro c t hnames h
    cases h
    exact .emptyTag (hnames.self id rfl)

theorem tagsIn_of_mapM {p : Pattern} {ts : List Template}
    (h : p.mapM (compileElement none) = .ok ts) : ∀ t ∈ ts, TagsIn p.HasTag t := by
  intro t ht
  have hnames : p.Everywhere (Element.NamedIn p.HasTag) :=
    fun π above e hat id hid => ⟨π, above, e, hat, hid⟩
  obtain ⟨e, he, hstep⟩ := step_of_mem_mapM_ok h t ht
  exact tagsIn_of_compileElement e none t (Pattern.everywhere_iff.mp hnames e he) hstep

/-- **The tags of a template are those of its pattern.** -/
theorem tagsIn_of_compile {p : Pattern} {t : Template} (h : compile p = .ok t) :
    TagsIn p.HasTag t := by
  obtain ⟨ts, hts, rfl⟩ := compileIn_eq_ok_iff.mp h
  exact .ofParts (tagsIn_of_mapM hts)

end Template

end Phrasebook
