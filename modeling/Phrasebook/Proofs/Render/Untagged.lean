import Phrasebook.Proofs.Render.Output

/-! # Text without tags

    A pattern without its tags keeps what stands between them and inside them. Where
    no tag has a handler, it compiles and renders as soon as the pattern itself does.

    Tags add text and take none away, with one exception: a tag around children that
    is written as a tag without children, because the first of its name was one, shows
    nothing of its children. What a pattern says outside of such tags is found in its
    rendering, in the same order.
-/

namespace Phrasebook

/-! ### Patterns without their tags -/

mutual

/-- What an element leaves when tags are removed: a tag leaves its children, or nothing
    if its name is to be cut out. -/
def Element.untagged (cut : String → Bool) : Element → List Element
  | .plural id kind offset bs => [.plural id kind offset (Branches.untagged cut bs)]
  | .select id bs => [.select id (Branches.untagged cut bs)]
  | .tag id _ es => if cut id then [] else Pattern.untagged cut es
  | .emptyTag _ _ => []
  | .literal text => [.literal text]
  | .argument id => [.argument id]
  | .number id offset style => [.number id offset style]
  | .moment id kind style => [.moment id kind style]
  | .pound => [.pound]

/-- A pattern without its tags. Children stay in the place of their tag, except for
    tags whose name is to be cut out. -/
def Pattern.untagged (cut : String → Bool) : List Element → List Element
  | [] => []
  | e :: es => e.untagged cut ++ Pattern.untagged cut es

def Branches.untagged (cut : String → Bool) :
    List (String × List Element) → List (String × List Element)
  | [] => []
  | (key, es) :: bs => (key, Pattern.untagged cut es) :: Branches.untagged cut bs

end

section
variable {cut : String → Bool}

theorem Pattern.untagged_eq (p : Pattern) : untagged cut p = p.flatMap (Element.untagged cut) := by
  induction p with
  | nil => rfl
  | cons e es ih => rw [untagged, List.flatMap_cons, ih]

theorem Branches.untagged_eq (bs : Branches) :
    untagged cut bs = bs.map fun b => (b.1, Pattern.untagged cut b.2) := by
  induction bs with
  | nil => rfl
  | cons b bs ih => rw [untagged, List.map_cons, ih]

theorem Branches.keys_untagged (bs : Branches) :
    (untagged cut bs).map Prod.fst = bs.map Prod.fst := by
  rw [untagged_eq, List.map_map]
  rfl

/-! ### They are patterns of the same kind -/

/-- What the elements of a pattern leave has a property, if this is so for each of them. -/
theorem Pattern.forall_mem_untagged {P : Element → Prop} {p : Pattern}
    (h : ∀ e ∈ p, ∀ e' ∈ e.untagged cut, P e') : ∀ e' ∈ untagged cut p, P e' := by
  intro e' he'
  rw [untagged_eq] at he'
  obtain ⟨e, he, he'⟩ := List.mem_flatMap.mp he'
  exact h e he e' he'

theorem Branches.forall_mem_untagged {P : String × Pattern → Prop} {bs : Branches}
    (h : ∀ b ∈ bs, P (b.1, Pattern.untagged cut b.2)) : ∀ b' ∈ untagged cut bs, P b' := by
  rw [untagged_eq]
  exact List.forall_mem_map.mpr h

theorem Branches.ascending_untagged {bs : Branches} (h : Table.Ascending bs) :
    Table.Ascending (untagged cut bs) := by
  rw [untagged_eq]
  exact List.pairwise_map.mpr h

theorem Element.orderedParts_untagged (e : Element) :
    Pattern.OrderedParts e → ∀ e' ∈ e.untagged cut, Pattern.OrderedParts e' := by
  induction e using Element.induct with
  | literal | argument | number | moment | pound =>
    intro h e' he'
    rw [List.mem_singleton.mp he']
    exact h
  | emptyTag id attributes =>
    intro _ e' he'
    exact absurd he' List.not_mem_nil
  | plural id kind offset bs ih =>
    intro h e' he'
    rw [List.mem_singleton.mp he']
    have hinside : ∀ b ∈ bs, Pattern.Ordered (Pattern.untagged cut b.2) := fun b hb =>
      Pattern.ordered_iff.mpr <| Pattern.forall_mem_untagged fun e he =>
        ih b hb e he (Pattern.ordered_iff.mp (h.branches b hb) e he)
    exact ⟨Branches.ascending_untagged h.ascending, Branches.forall_mem_untagged hinside,
      Pattern.ordered_nil⟩
  | select id bs ih =>
    intro h e' he'
    rw [List.mem_singleton.mp he']
    have hinside : ∀ b ∈ bs, Pattern.Ordered (Pattern.untagged cut b.2) := fun b hb =>
      Pattern.ordered_iff.mpr <| Pattern.forall_mem_untagged fun e he =>
        ih b hb e he (Pattern.ordered_iff.mp (h.branches b hb) e he)
    exact ⟨Branches.ascending_untagged h.ascending, Branches.forall_mem_untagged hinside,
      Pattern.ordered_nil⟩
  | tag id attributes es ih =>
    intro h e' he'
    rw [untagged] at he'
    split at he'
    · exact absurd he' List.not_mem_nil
    · exact Pattern.forall_mem_untagged
        (fun e he => ih e he (Pattern.ordered_iff.mp h.children e he)) e' he'

theorem Pattern.Ordered.untagged {p : Pattern} (h : p.Ordered) :
    Pattern.Ordered (Pattern.untagged cut p) :=
  ordered_iff.mpr <| forall_mem_untagged fun e he =>
    e.orderedParts_untagged (ordered_iff.mp h e he)

open Template in
/-- What an element that compiles leaves does compile. -/
theorem Element.compiles_untagged (e : Element) : ∀ c, (∃ t, compileElement c e = .ok t) →
    ∀ e' ∈ e.untagged cut, ∃ t, compileElement c e' = .ok t := by
  -- induction over the element, in every context that it may compile in
  induction e using Element.induct with
  | literal | argument | number | moment | pound =>
    intro c h e' he'
    rw [List.mem_singleton.mp he']
    exact h
  | emptyTag id attributes =>
    intro c _ e' he'
    exact absurd he' List.not_mem_nil
  | plural id kind offset bs ih =>
    intro c h e' he'
    rw [List.mem_singleton.mp he']
    obtain ⟨hbranches, b, hb, hother⟩ := exists_compile_plural_iff.mp h
    rw [exists_compile_plural_iff, Branches.untagged_eq, List.forall_mem_map]
    refine ⟨fun b hb => ⟨exists_compileIn_iff.mpr ?_, (hbranches b hb).2⟩,
      _, List.mem_map_of_mem hb, hother⟩
    exact Pattern.forall_mem_untagged fun e he =>
      ih b hb e he _ (exists_compileIn_iff.mp (hbranches b hb).1 e he)
  | select id bs ih =>
    intro c h e' he'
    rw [List.mem_singleton.mp he']
    obtain ⟨hbranches, b, hb, hother⟩ := exists_compile_select_iff.mp h
    rw [exists_compile_select_iff, Branches.untagged_eq, List.forall_mem_map]
    refine ⟨fun b hb => exists_compileIn_iff.mpr ?_, _, List.mem_map_of_mem hb, hother⟩
    exact Pattern.forall_mem_untagged fun e he =>
      ih b hb e he _ (exists_compileIn_iff.mp (hbranches b hb) e he)
  | tag id attributes es ih =>
    intro c ⟨t, h⟩ e' he'
    rw [compile_tag_eq] at h
    obtain ⟨t', ht', _⟩ := map_eq_ok_iff.mp h
    rw [untagged] at he'
    split at he'
    · exact absurd he' List.not_mem_nil
    · exact Pattern.forall_mem_untagged
        (fun e he => ih e he c (exists_compileIn_iff.mp ⟨t', ht'⟩ e he)) e' he'

theorem Template.compiles_untagged {p : Pattern} {t : Template} (h : compile p = .ok t) :
    ∃ t₀, compile (Pattern.untagged cut p) = .ok t₀ :=
  exists_compileIn_iff.mpr <| Pattern.forall_mem_untagged fun e he =>
    e.compiles_untagged none (exists_compileIn_iff.mp ⟨t, h⟩ e he)

end

/-! ### Their text -/

/-- The text of one fragment is found in that of another, in the same order. -/
def Fragment.Within (f g : Fragment) : Prop :=
  f.flatten.toList.Sublist g.flatten.toList

/-- A way to write tags shows the content of a tag around children. -/
def PlainTag.ShowsContent (plain : PlainTag → Handler) (t : PlainTag) : Prop :=
  ∀ content : Fragment, content.Within (plain t (some content))

/-- The tags that a rendering writes show their content, except for those cut out. -/
def ShowContents (plain : PlainTag → Handler) (cut : String → Bool) (tags : List PlainTag) :
    Prop :=
  ∀ t ∈ tags, t.shape = .paired → cut t.id = false → t.ShowsContent plain

section
variable {env : Environment} {plain plain₀ : PlainTag → Handler} {cut : String → Bool}
  {c : Option PluralContext}

def Element.TagsUnbound (env : Environment) (e : Element) : Prop :=
  ∀ id, e.tagName? = some id → env.arguments id = none

/-- What an element leaves has an output as soon as the element has one, and the text
    of it is found in that of the element if the tags written show their content. -/
def Element.Survives (env : Environment) (plain plain₀ : PlainTag → Handler)
    (cut : String → Bool) (c : Option PluralContext) (e : Element) : Prop :=
  ∀ f, e.output env plain c = .ok f →
    ∃ qs, Pattern.outputs env plain₀ c (e.untagged cut) = .ok qs ∧
      (ShowContents plain cut (e.tagsMet env c) → Fragment.Within (.parts qs) f)

theorem Pattern.outputs_untagged {p : Pattern}
    (h : ∀ e ∈ p, e.Survives env plain plain₀ cut c) :
    ∀ ps, outputs env plain c p = .ok ps →
      ∃ qs, outputs env plain₀ c (untagged cut p) = .ok qs ∧
        (ShowContents plain cut (tagsMet env c p) → Fragment.Within (.parts qs) (.parts ps)) := by
  -- induction on the pattern; each element leaves a list of elements, perhaps none
  induction p with
  | nil =>
    intro ps hps
    exact ⟨[], rfl, fun _ => List.nil_sublist _⟩
  | cons e es ih =>
    intro ps hps
    obtain ⟨hhead, hrest⟩ := List.forall_mem_cons.mp h
    rw [outputs] at hps
    obtain ⟨f, hf, hps⟩ := bind_eq_ok_iff.mp hps
    obtain ⟨fs, hfs, hps⟩ := bind_eq_ok_iff.mp hps
    obtain rfl : f :: fs = ps := Except.ok.inj hps
    obtain ⟨qs, hqs, hhead⟩ := hhead f hf
    obtain ⟨qs', hqs', hrest⟩ := ih hrest fs hfs
    -- on either side the text of the head stands before that of the rest
    refine ⟨qs ++ qs', ?_, fun hshow => ?_⟩
    · rw [untagged, outputs_append, hqs, hqs']
      rfl
    · rw [tagsMet_eq, List.flatMap_cons] at hshow
      obtain ⟨hshow, hshow'⟩ := List.forall_mem_append.mp hshow
      rw [← tagsMet_eq] at hshow'
      have htext := (hhead hshow).append (hrest hshow')
      simpa only [Fragment.Within, Fragment.flatten, Fragment.flattenAll,
        Fragment.flattenAll_append, String.toList_append] using htext

theorem Branches.outputUnder_untagged {bs : Branches} (key : String)
    (h : ∀ b ∈ bs, ∀ e ∈ b.2, e.Survives env plain plain₀ cut c) :
    ∀ f, outputUnder env plain c key bs = .ok f →
      ∃ g, outputUnder env plain₀ c key (untagged cut bs) = .ok g ∧
        (ShowContents plain cut (tagsMet env c key bs) → g.Within f) := by
  induction bs with
  | nil =>
    intro f hf
    cases hf
    exact ⟨.empty, rfl, fun _ => List.Sublist.refl _⟩
  | cons b bs ih =>
    obtain ⟨k, es⟩ := b
    obtain ⟨hhead, hrest⟩ := List.forall_mem_cons.mp h
    intro f hf
    rw [outputUnder] at hf
    rw [untagged, outputUnder, tagsMet, visited]
    split
    · next hkey =>
      rw [if_pos hkey] at hf
      obtain ⟨ps, hps, hf⟩ := bind_eq_ok_iff.mp hf
      obtain rfl : Fragment.ofParts ps = f := Except.ok.inj hf
      obtain ⟨qs, hqs, hshown⟩ := Pattern.outputs_untagged hhead ps hps
      refine ⟨.ofParts qs, by rw [hqs]; rfl, fun hshow => ?_⟩
      rw [Fragment.Within, Fragment.flatten_ofParts, Fragment.flatten_ofParts]
      exact hshown hshow
    · next hkey =>
      rw [if_neg hkey] at hf
      exact ih hrest f hf

theorem Fragment.Within.parts {f g : Fragment} (h : f.Within g) : Within (.parts [f]) g := by
  rw [Within, flatten, flattenAll, flattenAll, String.append_empty]
  exact h

/-- An element that is not a choice and not a tag survives as it stands. -/
theorem Element.Survives.leaf {e : Element} (huntagged : e.untagged cut = [e])
    (hplain : e.output env plain₀ c = e.output env plain c) :
    e.Survives env plain plain₀ cut c := by
  intro f hf
  refine ⟨[f], ?_, fun _ => Fragment.Within.parts (List.Sublist.refl _)⟩
  rw [huntagged, Pattern.outputs, hplain, hf]
  rfl

/-- A choice survives, if the elements of its branches do: the keys without the tags are
    the same, so the same branch is taken. -/
theorem Element.Survives.choice {e e₀ : Element} {key? : Except RenderError String}
    {c' : Option PluralContext} {bs : Branches}
    (hinside : ∀ b ∈ bs, ∀ e ∈ b.2, e.Survives env plain plain₀ cut c')
    (htags : e.tagsMet env c =
      match key? with
      | .ok key => Branches.tagsMet env c' key bs
      | .error _ => [])
    (houtput : e.output env plain c = do
      let key ← key?
      Branches.outputUnder env plain c' key bs)
    (huntagged : e.untagged cut = [e₀])
    (houtput₀ : e₀.output env plain₀ c = do
      let key ← key?
      Branches.outputUnder env plain₀ c' key (Branches.untagged cut bs)) :
    e.Survives env plain plain₀ cut c := by
  intro f hf
  rw [houtput] at hf
  -- the key does not depend on the tags, so the same branch is taken on both sides
  obtain ⟨key, rfl, hf⟩ := bind_eq_ok_iff.mp hf
  obtain ⟨g, hg, hshown⟩ := Branches.outputUnder_untagged key hinside f hf
  have hg₀ : e₀.output env plain₀ c = .ok g := houtput₀.trans hg
  refine ⟨[g], ?_, fun hshow => ?_⟩
  · rw [huntagged, Pattern.outputs, hg₀]
    rfl
  · rw [htags] at hshow
    exact (hshown hshow).parts

/-- **What an element says survives the removal of its tags.** -/
theorem Element.survives (e : Element) :
    ∀ c, Pattern.Throughout (Element.TagsUnbound env) e → e.Survives env plain plain₀ cut c := by
  -- induction over the element; only tags leave something other than themselves
  induction e using Element.induct with
  | literal | argument | number | moment | pound =>
    intro c _
    exact .leaf rfl rfl
  | plural id kind offset bs ih =>
    intro c unbound
    refine .choice (fun b hb e he => ?_) (Element.tagsMet_plural ..) rfl rfl ?_
    · exact ih b hb e he _ (Pattern.everywhere_iff.mp (unbound.branches b hb) e he)
    · rw [output, Branches.keys_untagged]
  | select id bs ih =>
    intro c unbound
    refine .choice (fun b hb e he => ?_) (Element.tagsMet_select ..) rfl rfl ?_
    · exact ih b hb e he _ (Pattern.everywhere_iff.mp (unbound.branches b hb) e he)
    · rw [output, Branches.keys_untagged]
  | tag id attributes es ih =>
    intro c unbound f hf
    have hplain : env.handlerOf plain ⟨id, attributes, .paired⟩ =
        .ok (plain ⟨id, attributes, .paired⟩) := by
      rw [Environment.handlerOf, unbound.self id rfl]
    rw [output] at hf
    obtain ⟨handler, hhandler, hf⟩ := bind_eq_ok_iff.mp hf
    obtain rfl := Except.ok.inj (hplain.symm.trans hhandler)
    obtain ⟨ps, hps, hf⟩ := bind_eq_ok_iff.mp hf
    obtain rfl : plain ⟨id, attributes, .paired⟩ (some (.ofParts ps)) = f := Except.ok.inj hf
    have hinside : ∀ e ∈ es, e.Survives env plain plain₀ cut c :=
      fun e he => ih e he c (Pattern.everywhere_iff.mp unbound.children e he)
    rw [untagged]
    cases hcut : cut id with
    | true =>
      -- the children are gone with the tag, so there is no text to be found
      exact ⟨[], rfl, fun _ => List.nil_sublist _⟩
    | false =>
      -- the children stand in place of the tag, and the tag shows what they give
      obtain ⟨qs, hqs, hshown⟩ := Pattern.outputs_untagged hinside ps hps
      refine ⟨qs, hqs, fun hshow => ?_⟩
      obtain ⟨htag, hchildren⟩ := List.forall_mem_cons.mp hshow
      have hcontent : Fragment.Within (.parts qs) (.ofParts ps) := by
        rw [Fragment.Within, Fragment.flatten_ofParts]
        exact hshown hchildren
      exact hcontent.trans (htag rfl hcut _)
  | emptyTag id attributes =>
    intro c _ f _
    exact ⟨[], rfl, fun _ => List.nil_sublist _⟩

end

/-! ### What plain tags show -/

theorem PlainTag.within_render {t : PlainTag} (h : t.shape = .paired) (content : Fragment) :
    content.Within (t.render (some content)) := by
  have htext : (t.render (some content)).flatten.toList =
      (t.opening ++ ">").toList ++ (content.flatten.toList ++ ("</" ++ t.id ++ ">").toList) := by
    rw [render, h]
    simp [Fragment.flatten_concat, Fragment.flattenAll, Fragment.flatten]
  rw [Fragment.Within, htext]
  exact (List.sublist_append_left _ _).trans (List.sublist_append_right _ _)

/-- Every tag around children that is met outside of a cut is written around them: the
    first of its name stands around children as well. -/
def Pattern.PairedFirst (env : Environment) (cut : String → Bool) (p : Pattern) : Prop :=
  ∀ t ∈ tagsMet env none p, t.shape = .paired → cut t.id = false →
    ∀ first, firstNamed (tagsMet env none p) t.id = some first → first.shape = .paired

/-- The names whose first tag met closes itself. Later tags of these names swallow their
    children. -/
def Pattern.swallowing (env : Environment) (p : Pattern) (id : String) : Bool :=
  (firstNamed (tagsMet env none p) id).any fun first => first.shape == .empty

/-- Outside of the names whose first tag closes itself, every tag is written around its
    children. -/
theorem Pattern.pairedFirst_swallowing (env : Environment) (p : Pattern) :
    p.PairedFirst env (p.swallowing env) := by
  intro t _ _ hcut first hfirst
  rw [swallowing, hfirst] at hcut
  cases hshape : first.shape with
  | paired => rfl
  | empty => simp [hshape] at hcut

theorem Pattern.PairedFirst.showContents {env : Environment} {cut : String → Bool} {p : Pattern}
    (h : p.PairedFirst env cut) :
    ShowContents (writtenAsFirst (tagsMet env none p)) cut (tagsMet env none p) := by
  intro t ht hpaired hcut content
  refine PlainTag.within_render ?_ content
  cases hfirst : firstNamed (tagsMet env none p) t.id with
  | none => exact hpaired
  | some first => exact h t ht hpaired hcut first hfirst

namespace Template

/-- **Plain tags take no text away**, except for those around children that are written
    as tags without children. Where no argument is bound to a tag name, the pattern
    without its tags compiles, and it renders as soon as the pattern does; if the tags
    that swallow their children are cut out with them, all of its text is found in the
    rendering of the pattern, in the same order. -/
theorem text_survives_plain_tags {p : Pattern} (ordered : p.Ordered) {t : Template}
    (h : compile p = .ok t) (env : Environment)
    (unbound : ∀ id, p.HasTag id → env.arguments id = none) (cut : String → Bool) :
    ∃ t₀, compile (Pattern.untagged cut p) = .ok t₀ ∧
      ∀ r, t.run env = .ok r → ∃ r₀, t₀.run env = .ok r₀ ∧
        (p.PairedFirst env cut →
          r₀.content.flatten.toList.Sublist r.content.flatten.toList) := by
  obtain ⟨t₀, ht₀⟩ : ∃ t₀, compile (Pattern.untagged cut p) = .ok t₀ := compiles_untagged h
  refine ⟨t₀, ht₀, fun r hr => ?_⟩
  -- both runs are known by their outputs, which leaves a statement about these
  rw [run_eq_output ordered h] at hr
  obtain ⟨content, hcontent, rfl⟩ := map_eq_ok_iff.mp hr
  obtain ⟨ps, hps, hparts⟩ := bind_eq_ok_iff.mp hcontent
  obtain rfl : Fragment.ofParts ps = content := Except.ok.inj hparts
  have hunbound : p.Everywhere (Element.TagsUnbound env) :=
    fun π above e hat id hname => unbound id ⟨π, above, e, hat, hname⟩
  obtain ⟨qs, hqs, hshown⟩ :=
    Pattern.outputs_untagged
      (fun e he => e.survives none (Pattern.everywhere_iff.mp hunbound e he)) ps hps
  have hrun := run_eq_output ordered.untagged ht₀ env
  rw [Pattern.output, hqs] at hrun
  refine ⟨_, hrun, fun hfirst => ?_⟩
  show Fragment.Within (.ofParts qs) (.ofParts ps)
  rw [Fragment.Within, Fragment.flatten_ofParts, Fragment.flatten_ofParts]
  exact hshown hfirst.showContents

/-- A tag that closes itself and the same tag around a text: the text is not shown. -/
theorem empty_tag_swallows_children :
    let p : Pattern := [.emptyTag "b" "", .tag "b" "" [.literal "hi"]]
    let env : Environment :=
      ⟨fun _ => none, ⟨"und", fun _ _ => .ok .other, fun _ _ => .ok "", fun _ _ _ => .ok ""⟩⟩
    p.Ordered ∧ (∀ id, p.HasTag id → env.arguments id = none) ∧
      ∃ t t₀ r r₀, compile p = .ok t ∧
        compile (Pattern.untagged (fun _ => false) p) = .ok t₀ ∧
        t.run env = .ok r ∧ t₀.run env = .ok r₀ ∧
        r.content.flatten = "<b /><b />" ∧ r₀.content.flatten = "hi" ∧
        ¬ r₀.content.flatten.toList.Sublist r.content.flatten.toList := by
  intro p env
  have ordered : p.Ordered := by
    simp [p, Pattern.orderedParts_iff, Element.branches, Element.children]
  have hrun : ∃ t t₀ r r₀, compile p = .ok t ∧
      compile (Pattern.untagged (fun _ => false) p) = .ok t₀ ∧
      t.run env = .ok r ∧ t₀.run env = .ok r₀ ∧
      r.content.flatten = "<b /><b />" ∧ r₀.content.flatten = "hi" :=
    ⟨_, _, _, _, rfl, rfl, rfl, rfl, rfl, rfl⟩
  obtain ⟨t, t₀, r, r₀, ht, ht₀, hr, hr₀, htext, htext₀⟩ := hrun
  refine ⟨ordered, fun _ _ => rfl, t, t₀, r, r₀, ht, ht₀, hr, hr₀, htext, htext₀, ?_⟩
  rw [htext, htext₀]
  decide

/-- A tag inside another is written as the empty tag before it, and only its own
    children are cut out. -/
theorem text_around_swallowed_tag :
    let p : Pattern :=
      [.emptyTag "b" "", .tag "i" "" [.argument "name", .tag "b" "" [.literal "hi"]],
        .tag "i" "" [.literal "!"]]
    let env : Environment :=
      ⟨Arguments.ofList [("name", .text "Ann")],
        ⟨"und", fun _ _ => .ok .other, fun _ _ => .ok "", fun _ _ _ => .ok ""⟩⟩
    let cut := p.swallowing env
    p.Ordered ∧ (∀ id, p.HasTag id → env.arguments id = none) ∧ p.PairedFirst env cut ∧
      ∃ t t₀ r r₀, compile p = .ok t ∧ compile (Pattern.untagged cut p) = .ok t₀ ∧
        t.run env = .ok r ∧ t₀.run env = .ok r₀ ∧
        r.content.flatten = "<b /><i>Ann<b /></i><i>!</i>" ∧ r₀.content.flatten = "Ann!" ∧
        r₀.content.flatten.toList.Sublist r.content.flatten.toList := by
  intro p env cut
  have ordered : p.Ordered := by
    simp [p, Pattern.orderedParts_iff, Element.branches, Element.children]
  have hnamed : p.Everywhere fun e => ∀ id, e.tagName? = some id → id = "b" ∨ id = "i" := by
    simp [p, Pattern.throughout_iff, Element.tagName?, Element.branches, Element.children]
  have unbound : ∀ id, p.HasTag id → env.arguments id = none := by
    rintro id ⟨π, above, e, hat, hname⟩
    rcases hnamed π above e hat id hname with rfl | rfl
    · rfl
    · rfl
  have hfirst : p.PairedFirst env cut := p.pairedFirst_swallowing env
  have hrun : ∃ t r, compile p = .ok t ∧ t.run env = .ok r ∧
      r.content.flatten = "<b /><i>Ann<b /></i><i>!</i>" := ⟨_, _, rfl, rfl, rfl⟩
  have hrun₀ : ∃ t₀ r₀, compile (Pattern.untagged cut p) = .ok t₀ ∧ t₀.run env = .ok r₀ ∧
      r₀.content.flatten = "Ann!" := ⟨_, _, rfl, rfl, rfl⟩
  obtain ⟨t, r, ht, hr, htext⟩ := hrun
  obtain ⟨t₀, ht₀, hsurvives⟩ := text_survives_plain_tags ordered ht env unbound cut
  obtain ⟨r₀, hr₀, hwithin⟩ := hsurvives r hr
  obtain ⟨t₀', r₀', ht₀', hr₀', htext₀⟩ := hrun₀
  obtain rfl : t₀ = t₀' := Except.ok.inj (ht₀.symm.trans ht₀')
  obtain rfl : r₀ = r₀' := Except.ok.inj (hr₀.symm.trans hr₀')
  exact ⟨ordered, unbound, hfirst, t, t₀, r, r₀, ht, ht₀, hr, hr₀, htext, htext₀,
    hwithin hfirst⟩

end Template

end Phrasebook
