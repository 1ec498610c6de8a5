import Phrasebook.Proofs.Render.Lockstep
import Phrasebook.Proofs.Template.Tags

/-! # More arguments than are asked for

    A rendering that asks for no absent argument does not notice arguments that are added,
    even where the pattern names them: they stand in branches that the rendering does not
    come to. Only a tag must not gain a handler, since a tag without one is no absence.

    Each step of a rendering records absences behind those that are there. So a rendering
    that has recorded none in the end has recorded none at any step, and up to there the
    added arguments have been without effect.
-/

namespace Phrasebook

namespace RenderM

variable {α β : Type}

/-- What the first computation gives without recording an absence, the second gives as
    well. The absences of the first only grow. -/
def CarriesOver (x y : RenderM α) : Prop :=
  ∀ s a s', x.outcome s = (.ok a, s') →
    ∃ ids, s'.absences.ids = s.absences.ids ++ ids ∧ (ids = [] → y.outcome s = (.ok a, s'))

namespace CarriesOver

theorem of_outcome {x y : RenderM α} (hstate : ∀ s, (x.outcome s).2.absences = s.absences)
    (hsame : ∀ s, y.outcome s = x.outcome s) : CarriesOver x y := by
  intro s a s' h
  have hids : s'.absences = s.absences := by rw [← hstate s, h]
  refine ⟨[], ?_, fun _ => ?_⟩
  · rw [hids, List.append_nil]
  · rw [hsame, h]

theorem pure (a : α) : CarriesOver (Pure.pure a) (Pure.pure a) :=
  of_outcome (fun _ => rfl) (fun _ => rfl)

theorem throw (e : RenderError) (y : RenderM α) : CarriesOver (MonadExcept.throw e) y := by
  intro s a s' h
  cases h

theorem ofLocale (r : Except LocaleError α) :
    CarriesOver (RenderM.ofLocale r) (RenderM.ofLocale r) := by
  cases r with
  | ok a => exact pure a
  | error e => exact throw (.locale e) _

theorem require (id : String) (expected : Expectation) (r : Option α) :
    CarriesOver (RenderM.require id expected r) (RenderM.require id expected r) := by
  cases r with
  | some a => exact pure a
  | none => exact throw (.invalidArgument id expected) _

/-- One step after another: what both record together is nothing only if each records
    nothing. -/
theorem bind {x y : RenderM α} {f g : α → RenderM β} (hx : CarriesOver x y)
    (hf : ∀ a, CarriesOver (f a) (g a)) : CarriesOver (x >>= f) (y >>= g) := by
  intro s b s'' h
  rw [outcome_bind] at h
  -- only a first step that succeeds leads to a second one
  cases hfirst : x.outcome s with
  | mk result s' =>
    rw [hfirst] at h
    cases result with
    | error e => cases h
    | ok a =>
      obtain ⟨first, hfirstIds, hfirstSame⟩ := hx s a s' hfirst
      obtain ⟨second, hsecondIds, hsecondSame⟩ := hf a s' b s'' h
      refine ⟨first ++ second, ?_, ?_⟩
      · rw [hsecondIds, hfirstIds, List.append_assoc]
      · intro hnothing
        obtain ⟨hfirstNone, hsecondNone⟩ := List.append_eq_nil_iff.mp hnothing
        rw [outcome_bind, hfirstSame hfirstNone]
        exact hsecondSame hsecondNone

end CarriesOver

end RenderM

/-! ### Environments with more arguments -/

/-- The second environment binds what the first binds to the same values, and no more of
    the names of a given kind. -/
structure Environment.Extends (K : String → Prop) (env env' : Environment) : Prop where
  localizer : env.localizer = env'.localizer
  keeps : ∀ id v, env.arguments id = some v → env'.arguments id = some v
  tags : ∀ id, K id → env.arguments id = none → env'.arguments id = none

section
variable {K : String → Prop} {env env' : Environment}

open RenderM

namespace Environment.Extends

theorem argument? (extend : env.Extends K env') (id : String) :
    CarriesOver (RenderM.argument? env id) (RenderM.argument? env' id) := by
  intro s v? s' h
  rw [outcome_argument?] at h
  cases harg : env.arguments id with
  | some v =>
    simp only [harg] at h
    obtain ⟨-, rfl⟩ := Prod.mk.inj h
    refine ⟨[], (List.append_nil _).symm, fun _ => ?_⟩
    simp only [outcome_argument?, extend.keeps id v harg, h]
  | none =>
    simp only [harg] at h
    obtain ⟨-, rfl⟩ := Prod.mk.inj h
    exact ⟨[id], rfl, fun hnothing => absurd hnothing (List.cons_ne_nil id [])⟩

/-- A tag has the same handler in both environments, or it is a plain tag in both. -/
theorem tagHandler (extend : env.Extends K env') {t : PlainTag} (ht : K t.id) :
    CarriesOver (RenderM.tagHandler env t) (RenderM.tagHandler env' t) := by
  unfold RenderM.tagHandler
  -- a bound tag has the same handler; for an unbound one more arguments change nothing
  cases harg : env.arguments t.id with
  | some v =>
    simp only [extend.keeps t.id v harg]
    exact .require t.id .handler v.handler?
  | none =>
    simp only [extend.tags t.id ht harg]
    refine .of_outcome (fun s => ?_) fun _ => rfl
    show (s.plainTag t).2.absences = s.absences
    unfold CallState.plainTag
    cases s.plainTags.lookup t.id <;> rfl

end Environment.Extends

/-! ### Templates -/

namespace Template

theorem carriesOver_all {ts : List Template}
    (h : ∀ t ∈ ts, CarriesOver (t.render env) (t.render env')) :
    CarriesOver (ts.mapM (render env)) (ts.mapM (render env')) := by
  induction ts with
  | nil => exact .pure []
  | cons t ts ih =>
    obtain ⟨hhead, hrest⟩ := List.forall_mem_cons.mp h
    rw [List.mapM_cons, List.mapM_cons]
    exact hhead.bind fun p => (ih hrest).bind fun ps => .pure (p :: ps)

/-- **More arguments**: what a template renders to without recording an absence, it renders
    to with more arguments as well. -/
theorem carriesOver (extend : env.Extends K env') {t : Template} (h : t.TagsIn K) :
    CarriesOver (t.render env) (t.render env') := by
  -- induction over the template; each case goes step by step along both renderings
  induction h with
  | literal text => exact .pure _
  | argument id =>
    refine (extend.argument? id).bind fun v? => ?_
    cases v? with
    | none => exact .pure _
    | some v => exact (CarriesOver.require id .shown v.shown?).bind fun text => .pure _
  | number id offset style =>
    simp only [render_number, renderNumber, extend.localizer]
    refine (extend.argument? id).bind fun v? => ?_
    cases v? with
    | none => exact .pure _
    | some v =>
      refine (CarriesOver.require id .number v.quantity?).bind fun q => ?_
      exact (CarriesOver.ofLocale _).bind fun text => .pure _
  | moment id kind style =>
    simp only [render_moment, renderMoment, extend.localizer]
    refine (extend.argument? id).bind fun v? => ?_
    cases v? with
    | none => exact .pure _
    | some v =>
      refine (CarriesOver.require id .moment v.readMoment?).bind fun m => ?_
      exact (CarriesOver.ofLocale _).bind fun text => .pure _
  | sequence _ ih =>
    rw [render_sequence, render_sequence]
    exact (carriesOver_all ih).bind fun ps => .pure _
  | plural _ _ _ ihExact ihKeyed ihOther =>
    simp only [render_plural, extend.localizer]
    refine (extend.argument? _).bind fun v? => ?_
    cases v? with
    | none => exact ihOther
    | some v =>
      refine (CarriesOver.require _ .number v.quantity?).bind fun q => ?_
      refine rel_getD (rel_find? ihExact) ?_
      split
      · exact ihOther
      · refine (CarriesOver.ofLocale _).bind fun category => ?_
        exact rel_getD (rel_lookup ihKeyed) ihOther
  | select _ _ ihBranches ihOther =>
    rw [render_select, render_select]
    refine (extend.argument? _).bind fun v? => ?_
    cases v? with
    | none => exact ihOther
    | some v =>
      refine (CarriesOver.require _ .key v.shown?).bind fun key => ?_
      exact rel_getD (rel_lookup ihBranches) ihOther
  | @tag id attributes children hid _ ih =>
    rw [render_tag, render_tag]
    refine (extend.tagHandler (t := ⟨id, attributes, .paired⟩) hid).bind fun handler => ?_
    exact ih.bind fun content => .pure _
  | @emptyTag id attributes hid =>
    rw [render_emptyTag, render_emptyTag]
    exact (extend.tagHandler (t := ⟨id, attributes, .empty⟩) hid).bind fun handler => .pure _

/-- **A complete rendering does not notice more arguments.** Take a pattern that compiles,
    any localizer, and arguments under which it renders without an absence. Arguments may
    be added under every id that is no tag of the pattern, also under those that the
    pattern asks for in branches not taken: it renders to the same, without an absence. -/
theorem complete_rendering_ignores_more_arguments {p : Pattern} {t : Template}
    (h : compile p = .ok t) (localizer : Localizer) {A B : Arguments}
    (hkeeps : ∀ id v, A id = some v → B id = some v)
    (htags : ∀ id, p.HasTag id → A id = none → B id = none) {content : Fragment}
    (hrun : t.run ⟨A, localizer⟩ = .ok ⟨content, .empty⟩) :
    t.run ⟨B, localizer⟩ = .ok ⟨content, .empty⟩ := by
  have extend : Environment.Extends p.HasTag ⟨A, localizer⟩ ⟨B, localizer⟩ :=
    ⟨rfl, hkeeps, htags⟩
  have hnames : t.TagsIn p.HasTag := tagsIn_of_compile h
  rw [run_eq] at hrun
  -- a complete rendering has recorded nothing, which is when its outcome is carried over
  cases houtcome : (t.render ⟨A, localizer⟩).outcome .start with
  | mk result s =>
    rw [houtcome] at hrun
    cases result with
    | error e => cases hrun
    | ok c =>
      obtain ⟨rfl, habsences⟩ : c = content ∧ s.absences = .empty := by
        simpa using hrun
      obtain ⟨ids, hids, hsame⟩ := carriesOver extend hnames .start c s houtcome
      have hnothing : ids = [] := by
        rw [habsences] at hids
        exact hids.symm
      rw [run_eq, hsame hnothing]
      exact congrArg (fun a => Except.ok (Rendering.mk c a)) habsences

/-- A count is added that no number can be read from: it is asked for only in the branch
    that is not taken. -/
theorem count_in_branch_not_taken :
    let p : Pattern :=
      [.argument "name", .select "g" [("male", [.number "count" 0 .plain]),
        ("other", [.tag "b" "" [.literal "!"]])]]
    let A := Arguments.ofList [("name", .text "Ann"), ("g", .text "female")]
    let B := Arguments.ofList [("name", .text "Ann"), ("g", .text "female"),
      ("count", .text "many")]
    let localizer : Localizer :=
      ⟨"und", fun _ _ => .ok .other, fun _ _ => .ok "", fun _ _ _ => .ok ""⟩
    (∀ id v, A id = some v → B id = some v) ∧
      (∀ id, p.HasTag id → A id = none → B id = none) ∧ A "count" = none ∧
      ∃ t content, compile p = .ok t ∧ t.run ⟨A, localizer⟩ = .ok ⟨content, .empty⟩ ∧
        t.run ⟨B, localizer⟩ = .ok ⟨content, .empty⟩ ∧ content.flatten = "Ann<b>!</b>" := by
  intro p A B localizer
  have hadded : ∀ id, id ≠ "count" → B id = A id := by
    intro id hid
    show List.lookup id (("count", _) :: _) = _
    rw [Table.lookup_entry, if_neg hid]
    rfl
  have hkeeps : ∀ id v, A id = some v → B id = some v := by
    intro id v harg
    rw [hadded id ?_, harg]
    rintro rfl
    cases harg
  have hnames : p.Everywhere (Element.NamedIn (· = "b")) := by
    simp [p, Pattern.throughout_iff, Element.NamedIn, Element.tagName?, Element.branches,
      Element.children]
  have htags : ∀ id, p.HasTag id → A id = none → B id = none := by
    rintro id ⟨π, above, e, hat, hid⟩ habsent
    obtain rfl : id = "b" := hnames π above e hat id hid
    rfl
  have hrun : ∃ t content, compile p = .ok t ∧
      t.run ⟨A, localizer⟩ = .ok ⟨content, .empty⟩ ∧ content.flatten = "Ann<b>!</b>" :=
    ⟨_, _, rfl, rfl, rfl⟩
  obtain ⟨t, content, ht, hA, htext⟩ := hrun
  have hB := complete_rendering_ignores_more_arguments ht localizer hkeeps htags hA
  exact ⟨hkeeps, htags, rfl, t, content, ht, hA, hB, htext⟩

end Template

end

end Phrasebook
