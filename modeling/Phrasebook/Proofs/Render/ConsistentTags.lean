import Phrasebook.Proofs.Render.Output

/-! # Consistent tags

    The first tag of a name decides how all tags of that name without a handler are
    written in a call. In a pattern where tags of one name are all alike nothing is
    left to decide: every such tag is written as it stands, around the output of its
    own children, and the rest of the call has no part in it.
-/

namespace Phrasebook

/-- Tags of one name have the same attributes and the same shape. -/
def Pattern.ConsistentTags (p : Pattern) : Prop :=
  ∀ π above e t π' above' e' t', p.At π above e → p.At π' above' e' →
    e.plainTag? = some t → e'.plainTag? = some t' → t.id = t'.id → t = t'

/-! ### Tags written as they stand -/

/-- The name of a tag, and behind a space the attributes if there are any. -/
def PlainTag.label (t : PlainTag) : String :=
  if t.attributes = "" then t.id else t.id ++ " " ++ t.attributes

/-- A tag as it stands in a pattern: the opening, the content and the closing of a tag
    around children, and no content for a tag that closes itself. -/
def PlainTag.written (t : PlainTag) : Handler := fun content =>
  match t.shape with
  | .paired =>
    .concat [.text ("<" ++ t.label ++ ">"), content.getD .empty, .text ("</" ++ t.id ++ ">")]
  | .empty => .text ("<" ++ t.label ++ " />")

theorem PlainTag.opening_eq (t : PlainTag) : t.opening = "<" ++ t.label := by
  unfold opening label
  split
  · rfl
  · simp only [String.append_assoc]

theorem PlainTag.render_eq_written (t : PlainTag) : t.render = t.written := by
  funext content
  rw [render, written, opening_eq]
  cases t.shape <;> rfl

/-- A rendering without any memory of tags: the output of the pattern with every tag
    without a handler as it stands, and the absent ones among the arguments asked for. -/
def Pattern.writtenOut (env : Environment) (p : Pattern) : Except RenderError Rendering := do
  let content ← p.output env PlainTag.written none
  return ⟨content, ⟨env.absentAmong (Pattern.asked env none p)⟩⟩

/-! ### The output depends on the tags of the pattern alone -/

section
variable {env : Environment} {plain plain' : PlainTag → Handler} {c : Option PluralContext}

/-- Two ways to write tags agree on the tag that an element is, if it is one. -/
def Element.WrittenAlike (plain plain' : PlainTag → Handler) (e : Element) : Prop :=
  ∀ t, e.plainTag? = some t → plain t = plain' t

theorem Environment.handlerOf_congr {t : PlainTag} (h : plain t = plain' t) :
    env.handlerOf plain t = env.handlerOf plain' t := by
  rw [handlerOf, handlerOf, h]

theorem Pattern.outputs_congr {p : Pattern}
    (h : ∀ e ∈ p, e.output env plain c = e.output env plain' c) :
    outputs env plain c p = outputs env plain' c p := by
  induction p with
  | nil => rfl
  | cons e es ih =>
    obtain ⟨hhead, hrest⟩ := List.forall_mem_cons.mp h
    rw [outputs, outputs, hhead, ih hrest]

theorem Branches.outputUnder_congr {bs : Branches} (key : String)
    (h : ∀ b ∈ bs, ∀ e ∈ b.2, e.output env plain c = e.output env plain' c) :
    outputUnder env plain c key bs = outputUnder env plain' c key bs := by
  induction bs with
  | nil => rfl
  | cons b bs ih =>
    obtain ⟨k, es⟩ := b
    obtain ⟨hhead, hrest⟩ := List.forall_mem_cons.mp h
    rw [outputUnder, outputUnder, Pattern.outputs_congr hhead, ih hrest]

theorem Element.output_congr (e : Element) : ∀ c,
    Pattern.Throughout (Element.WrittenAlike plain plain') e →
      e.output env plain c = e.output env plain' c := by
  -- induction over the element; only for tags does it matter how they are written
  induction e using Element.induct with
  | literal | argument | number | moment | pound =>
    intro c _
    rfl
  | plural id kind offset bs ih =>
    intro c h
    have hinside : ∀ b ∈ bs, ∀ e ∈ b.2,
        e.output env plain (some ⟨id, offset⟩) = e.output env plain' (some ⟨id, offset⟩) :=
      fun b hb e he => ih b hb e he _ (Pattern.everywhere_iff.mp (h.branches b hb) e he)
    simp only [output, Branches.outputUnder_congr _ hinside]
  | select id bs ih =>
    intro c h
    have hinside : ∀ b ∈ bs, ∀ e ∈ b.2, e.output env plain c = e.output env plain' c :=
      fun b hb e he => ih b hb e he _ (Pattern.everywhere_iff.mp (h.branches b hb) e he)
    simp only [output, Branches.outputUnder_congr _ hinside]
  | tag id attributes es ih =>
    intro c h
    have hchildren : Pattern.outputs env plain c es = Pattern.outputs env plain' c es :=
      Pattern.outputs_congr fun e he =>
        ih e he c (Pattern.everywhere_iff.mp h.children e he)
    rw [output, output, Environment.handlerOf_congr (h.self _ rfl), hchildren]
  | emptyTag id attributes =>
    intro c h
    rw [output, output, Environment.handlerOf_congr (h.self _ rfl)]

end

/-! ### Writing the first of a name and writing what stands there -/

theorem Pattern.exists_of_mem_tagsMet {env : Environment} {c : Option PluralContext}
    {p : Pattern} {t : PlainTag} (h : t ∈ tagsMet env c p) :
    ∃ π above e, p.At π above e ∧ e.plainTag? = some t := by
  obtain ⟨⟨c', e⟩, hv, ht⟩ := List.mem_filterMap.mp h
  obtain ⟨π, above, hat, _⟩ := holds_of_mem_visited _ hv
  exact ⟨π, above, e, hat, ht⟩

/-- Among consistent tags the first of a name is the tag itself. -/
theorem Pattern.ConsistentTags.writtenAlike {p : Pattern} (consistent : p.ConsistentTags)
    (env : Environment) :
    p.Everywhere (Element.WrittenAlike (writtenAsFirst (tagsMet env none p)) PlainTag.written) := by
  intro π above e hat t ht
  -- the first tag of the name stands in the pattern too, so consistency makes it this one
  have hfirst : (firstNamed (tagsMet env none p) t.id).getD t = t := by
    cases hfind : firstNamed (tagsMet env none p) t.id with
    | none => rfl
    | some first =>
      have hname : first.id = t.id := by simpa using List.find?_some hfind
      obtain ⟨π', above', e', hat', hfirst⟩ :=
        exists_of_mem_tagsMet (List.mem_of_find?_eq_some hfind)
      exact consistent π' above' e' first π above e t hat' hat hfirst ht hname
  rw [writtenAsFirst, hfirst, PlainTag.render_eq_written]

namespace Template

/-- **Consistent tags are written out as they stand.** Where tags of one name are all
    alike, what is remembered in the course of a call cannot be told from its result:
    it renders to the same content with the same absences, or to the same error, as
    with every unbound tag written as it stands around its own children. -/
theorem consistent_tags_are_written_out {p : Pattern} (ordered : p.Ordered)
    (consistent : p.ConsistentTags) {t : Template} (h : compile p = .ok t) (env : Environment) :
    t.run env = p.writtenOut env := by
  have halike := Pattern.everywhere_iff.mp (consistent.writtenAlike env)
  have houtput : p.output env (writtenAsFirst (Pattern.tagsMet env none p)) none =
      p.output env PlainTag.written none := by
    rw [Pattern.output, Pattern.output,
      Pattern.outputs_congr fun e he => e.output_congr none (halike e he)]
  rw [run_eq_output ordered h, houtput, Pattern.writtenOut]
  cases p.output env PlainTag.written none <;> rfl

/-- Tags of one name above, beside and inside each other, one of them inside a tag that
    has a handler. -/
theorem repeated_tags_written_out :
    let p : Pattern :=
      [.tag "b" "" [.tag "a" "href" [.argument "name", .emptyTag "br" ""]],
        .select "g" [("other", [.tag "b" "" [.tag "b" "" [.literal "!"]], .emptyTag "br" ""])],
        .tag "q" "" [.tag "a" "href" [.literal "?"]]]
    let stars : Handler := Handler.wrap fun content => .parts [.text "*", content, .text "*"]
    let env : Environment :=
      ⟨Arguments.ofList [("q", .handler stars), ("name", .text "Ann")],
        ⟨"und", fun _ _ => .ok .other, fun _ _ => .ok "", fun _ _ _ => .ok ""⟩⟩
    p.Ordered ∧ p.ConsistentTags ∧ ∃ t r, compile p = .ok t ∧ t.run env = .ok r ∧
      p.writtenOut env = .ok r ∧ r.absences.ids = ["g"] ∧
      r.content.flatten = "<b><a href>Ann<br /></a></b><b><b>!</b></b><br />*<a href>?</a>*" := by
  intro p stars env
  have ordered : p.Ordered := by
    simp [p, Pattern.orderedParts_iff, Element.branches, Element.children, Table.Ascending]
  let tags : List PlainTag :=
    [⟨"b", "", .paired⟩, ⟨"a", "href", .paired⟩, ⟨"br", "", .empty⟩, ⟨"q", "", .paired⟩]
  have hlisted : p.Everywhere fun e => ∀ t, e.plainTag? = some t → t ∈ tags := by
    simp [p, tags, Pattern.throughout_iff, Element.plainTag?, Element.branches, Element.children]
  have hnames : ∀ t ∈ tags, ∀ t' ∈ tags, t.id = t'.id → t = t' := by decide
  have consistent : p.ConsistentTags :=
    fun _ _ e t _ _ e' t' hat hat' ht ht' =>
      hnames t (hlisted _ _ e hat t ht) t' (hlisted _ _ e' hat' t' ht')
  have hrun : ∃ t r, compile p = .ok t ∧ t.run env = .ok r ∧ r.absences.ids = ["g"] ∧
      r.content.flatten = "<b><a href>Ann<br /></a></b><b><b>!</b></b><br />*<a href>?</a>*" :=
    ⟨_, _, rfl, rfl, rfl, rfl⟩
  obtain ⟨t, r, ht, hr, habsent, htext⟩ := hrun
  have hwritten := consistent_tags_are_written_out ordered consistent ht env
  exact ⟨ordered, consistent, t, r, ht, hr, hwritten.symm.trans hr, habsent, htext⟩

end Template

end Phrasebook
