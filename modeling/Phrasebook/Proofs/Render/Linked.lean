import Phrasebook.Proofs.Fragment
import Phrasebook.Proofs.Render.Lockstep
import Phrasebook.Proofs.Template.Tags

/-! # Templates in linked environments

    A template is rendered in one environment, and the template with its leaves replaced
    in another. The two renderings run in lockstep as soon as their leaves do, the
    arguments that choices look at are read alike, and the handlers of each tag keep
    fragments related.

    The states and the fragments may be related in any way that the steps keep. Equal
    states and fragments show two environments to be interchangeable; weaker relations
    bound what a difference between them can do.
-/

namespace Phrasebook

open RenderM

/-! ### Relations of values, fragments and handlers -/

/-- Two values read the same in all the places where arguments are read but tags. -/
structure Value.AlikeOutsideTags (v w : Value) : Prop where
  shown : v.shown? = w.shown?
  quantity : v.quantity? = w.quantity?
  moment : v.readMoment? = w.readMoment?

theorem Value.AlikeOutsideTags.refl (v : Value) : v.AlikeOutsideTags v :=
  ⟨rfl, rfl, rfl⟩

/-- A relation of fragments that rendering keeps outside tags: each text is related to
    itself, and what is put together from related fragments is related. -/
structure Fragment.Compatible (Q : Fragment → Fragment → Prop) : Prop where
  text : ∀ s, Q (.text s) (.text s)
  joined : ∀ ps qs, List.Forall₂ Q ps qs → Q (.concat ps) (.concat qs)

theorem Fragment.compatible_eq : Fragment.Compatible Eq where
  text := fun _ => rfl
  joined := fun ps qs hpq => by
    rw [List.forall₂_eq_eq_eq] at hpq
    rw [hpq]

/-- Fragments may be compared by anything that their texts tell, if what two texts in a row
    tell depends only on what each of them tells. -/
theorem Fragment.compatible_of_append {β : Type} (tell : String → β)
    (h : ∀ s s' t t', tell s = tell s' → tell t = tell t' → tell (s ++ t) = tell (s' ++ t')) :
    Fragment.Compatible fun p q => tell p.flatten = tell q.flatten where
  text := fun _ => rfl
  joined := by
    intro ps qs hpq
    rw [flatten_concat, flatten_concat]
    induction hpq with
    | nil => rfl
    | cons hhead _ ih => exact h _ _ _ _ hhead ih

/-- Two handlers take related contents to related fragments, and give related fragments
    for a tag that closes itself. -/
structure Handler.Respects (Q : Fragment → Fragment → Prop) (f g : Handler) : Prop where
  around : ∀ p q, Q p q → Q (f (some p)) (g (some q))
  alone : Q (f none) (g none)

/-- A plain tag is put together from texts and its content, so it respects every relation
    that putting together keeps. -/
theorem PlainTag.respects {Q : Fragment → Fragment → Prop} (hQ : Fragment.Compatible Q)
    (t : PlainTag) : Handler.Respects Q t.render t.render := by
  unfold render
  -- a tag that closes itself shows no content, so its text is the same on both sides
  cases t.shape with
  | empty => exact ⟨fun _ _ _ => hQ.text _, hQ.text _⟩
  | paired =>
    have haround : ∀ opening closing p q, Q p q →
        Q (.concat [.text opening, p, .text closing]) (.concat [.text opening, q, .text closing]) :=
      fun _ _ p q hpq => hQ.joined _ _ (.cons (hQ.text _) (.cons hpq (.cons (hQ.text _) .nil)))
    -- a paired tag without content is one around empty text
    exact ⟨haround _ _, haround _ _ _ _ (hQ.text "")⟩

/-- A handler respects that fragments are the same. -/
theorem Handler.respects_eq (f : Handler) : Handler.Respects Eq f f where
  around := by
    rintro p _ rfl
    rfl
  alone := rfl

/-! ### Linked environments -/

/-- Two environments are linked by a relation of states and one of fragments: the steps of
    a rendering keep both relations, for tags whose names are of a given kind. -/
structure Environment.Linked (S : CallState → CallState → Prop) (Q : Fragment → Fragment → Prop)
    (K : String → Prop) (env env' : Environment) : Prop where
  localizer : env.localizer = env'.localizer
  arguments : ∀ id, Option.Rel Value.AlikeOutsideTags (env.arguments id) (env'.arguments id)
  absence : ∀ id, env.arguments id = none →
    ∀ s s', S s s' → S (s.recordAbsence id) (s'.recordAbsence id)
  tag : ∀ t : PlainTag, K t.id →
    Lockstep S (Handler.Respects Q) (tagHandler env t) (tagHandler env' t)
  fragments : Fragment.Compatible Q

theorem Environment.argumentsAlike_refl (env : Environment) (id : String) :
    Option.Rel Value.AlikeOutsideTags (env.arguments id) (env.arguments id) := by
  cases env.arguments id with
  | none => exact .none
  | some v => exact .some (.refl v)

section
variable {S : CallState → CallState → Prop} {Q : Fragment → Fragment → Prop}
  {K : String → Prop} {env env' : Environment}

/-- Environments are linked from equal states on if the values bound to each id are read
    alike outside tags and in tags are handlers that keep fragments related. -/
theorem Environment.linked_of_rel {R : Value → Value → Prop}
    (hlocalizer : env.localizer = env'.localizer)
    (harg : ∀ id, Option.Rel R (env.arguments id) (env'.arguments id))
    (hread : ∀ v w, R v w → Value.AlikeOutsideTags v w)
    (hhandler : ∀ v w, R v w → Option.Rel (Handler.Respects Q) v.handler? w.handler?)
    (hfragments : Fragment.Compatible Q) : env.Linked Eq Q K env' where
  localizer := hlocalizer
  arguments := by
    intro id
    have harg := harg id
    revert harg
    generalize env.arguments id = v?
    generalize env'.arguments id = w?
    intro harg
    cases harg with
    | none => exact .none
    | some hrelated => exact .some (hread _ _ hrelated)
  absence := by
    rintro id - s _ rfl
    rfl
  tag := by
    rintro t - s _ rfl
    have harg := harg t.id
    rw [outcome_tagHandler, outcome_tagHandler]
    revert harg
    generalize env.arguments t.id = v?
    generalize env'.arguments t.id = w?
    intro harg
    cases harg with
    | none => exact .ok (PlainTag.respects hfragments _) rfl
    | some hrelated =>
      exact Lockstep.require_rel t.id .handler (hhandler _ _ hrelated) s s rfl
  fragments := hfragments

namespace Environment.Linked

theorem argument? (linked : env.Linked S Q K env') (id : String) :
    Lockstep S (Option.Rel Value.AlikeOutsideTags) (RenderM.argument? env id)
      (RenderM.argument? env' id) := by
  intro s s' hs
  have harg := linked.arguments id
  have hrecord := linked.absence id
  rw [outcome_argument?, outcome_argument?]
  revert harg hrecord
  generalize env.arguments id = v?
  generalize env'.arguments id = w?
  intro harg hrecord
  cases harg with
  | some halike => exact .ok (.some halike) hs
  | none => exact .ok .none (hrecord rfl s s' hs)

/-- A placeholder that shows an answer of the localizer for a reading of its argument. -/
theorem reading (linked : env.Linked S Q K env') {γ : Type} (id : String)
    (expected : Expectation) (read : Value → Option γ) (ask : γ → Except LocaleError String)
    (hread : ∀ v w, Value.AlikeOutsideTags v w → read v = read w) :
    let placeholder (env : Environment) : RenderM Fragment := do
      match ← RenderM.argument? env id with
      | none => return .empty
      | some v =>
        let a ← RenderM.require id expected (read v)
        return .text (← RenderM.ofLocale (ask a))
    Lockstep S Q (placeholder env) (placeholder env') := by
  intro placeholder
  refine (linked.argument? id).bind ?_
  intro v? w? halike
  cases halike with
  | none => exact .pure (linked.fragments.text "")
  | @some v w halike =>
    show Lockstep S Q (RenderM.require id expected (read v) >>= _)
      (RenderM.require id expected (read w) >>= _)
    rw [hread v w halike]
    refine (Lockstep.require id expected (read w)).bind_same ?_
    intro a
    refine (Lockstep.ofLocale (ask a)).bind_same ?_
    intro text
    exact .pure (linked.fragments.text text)

end Environment.Linked

namespace Template

/-! ### Whole templates -/

section
variable {g : Template → Template}

/-- **Lockstep of linked environments**: a template, and the template with its leaves
    replaced, run in lockstep if each leaf and its replacement do. -/
theorem lockstep_mapLeaves (linked : env.Linked S Q K env')
    (hleaf : ∀ leaf : Template, leaf.IsLeaf → leaf.TagsIn K →
      Lockstep S Q (leaf.render env) ((g leaf).render env'))
    {t : Template} (h : t.TagsIn K) :
    Lockstep S Q (t.render env) ((t.mapLeaves g).render env') := by
  -- induction over the template; the relation of the leaves is given
  induction h with
  | literal text => exact hleaf _ trivial (.literal text)
  | argument id => exact hleaf _ trivial (.argument id)
  | number id offset style => exact hleaf _ trivial (.number id offset style)
  | moment id kind style => exact hleaf _ trivial (.moment id kind style)
  | sequence _ ih =>
    simp only [mapLeaves, render_sequence, mapLeavesAll_eq_map, List.mapM_map]
    refine (Lockstep.mapM (List.forall₂_same.mpr ih)).bind fun ps qs hpq => ?_
    exact .pure (linked.fragments.joined ps qs hpq)
  | @plural id kind offset exact keyed other _ _ _ ihExact ihKeyed ihOther =>
    simp only [mapLeaves, render_plural, mapLeavesExact_eq_map, mapLeavesKeyed_eq_map,
      List.isEmpty_map, List.find?_map, Option.map_map, lookup_map_entry]
    refine (linked.argument? id).bind ?_
    intro v? w? halike
    cases halike with
    | none => exact ihOther
    | @some v w halike =>
      -- both sides choose by the same number and the same category
      simp only [halike.quantity, linked.localizer]
      refine (Lockstep.require id .number w.quantity?).bind_same ?_
      intro q
      refine rel_getD (rel_find? ihExact) ?_
      split
      · exact ihOther
      · refine (Lockstep.ofLocale _).bind_same ?_
        intro category
        exact rel_getD (rel_lookup ihKeyed) ihOther
  | @select id branches other _ _ ihBranches ihOther =>
    simp only [mapLeaves, render_select, mapLeavesKeyed_eq_map, Option.map_map,
      lookup_map_entry]
    refine (linked.argument? id).bind ?_
    intro v? w? halike
    cases halike with
    | none => exact ihOther
    | @some v w halike =>
      simp only [halike.shown]
      refine (Lockstep.require id .key w.shown?).bind_same ?_
      intro key
      exact rel_getD (rel_lookup ihBranches) ihOther
  | @tag id attributes children hid _ ih =>
    simp only [mapLeaves, render_tag]
    refine (linked.tag ⟨id, attributes, .paired⟩ hid).bind fun f f' hrespects => ?_
    refine ih.bind fun p q hpq => ?_
    exact .pure (hrespects.around p q hpq)
  | emptyTag hid => exact hleaf _ trivial (.emptyTag hid)

end

theorem lockstep_leaf (linked : env.Linked S Q K env') {leaf : Template} (hleaf : leaf.IsLeaf)
    (h : leaf.TagsIn K) : Lockstep S Q (leaf.render env) (leaf.render env') := by
  cases h with
  | sequence | plural | select | tag => exact hleaf.elim
  | literal text => exact .pure (linked.fragments.text text)
  | argument id =>
    refine (linked.argument? id).bind ?_
    intro v? w? halike
    cases halike with
    | none => exact .pure (linked.fragments.text "")
    | @some v w halike =>
      simp only [halike.shown]
      refine (Lockstep.require id .shown w.shown?).bind_same ?_
      intro text
      exact .pure (linked.fragments.text _)
  | number id offset style =>
    simp only [render_number, renderNumber, linked.localizer]
    exact linked.reading id .number Value.quantity?
      (fun q => env'.localizer.number style (q.minus offset)) fun _ _ halike => halike.quantity
  | moment id kind style =>
    simp only [render_moment, renderMoment, linked.localizer]
    exact linked.reading id .moment Value.readMoment? (env'.localizer.moment kind style)
      fun _ _ halike => halike.moment
  | @emptyTag id attributes hid =>
    refine (linked.tag ⟨id, attributes, .empty⟩ hid).bind fun f f' hrespects => ?_
    exact .pure hrespects.alone

/-- **A template in linked environments** renders to related fragments and to related
    states, or to the same error. -/
theorem lockstep (linked : env.Linked S Q K env') {t : Template} (h : t.TagsIn K) :
    Lockstep S Q (t.render env) (t.render env') := by
  have hwhole := lockstep_mapLeaves (g := fun leaf => leaf) linked
    (fun _ hleaf h => lockstep_leaf linked hleaf h) h
  rwa [mapLeaves_self] at hwhole

end Template

end

end Phrasebook
