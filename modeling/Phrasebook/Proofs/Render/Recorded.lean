import Phrasebook.Proofs.Render.Lockstep
import Phrasebook.Proofs.Template.Leaves

/-! # Recorded renderings

    A rendering can be recorded: besides its outcome it then gives the calls of all
    handlers that arguments bind to tags, with what each of them was given, also where
    it fails. The recording changes nothing else.

    What handlers are given is put together from texts and from what handlers have
    returned. So a property of fragments that putting together keeps, and that the bound
    handlers keep, holds of all that is rendered and of all that handlers are given.
-/

namespace Phrasebook

/-! ### Recorded renderings -/

/-- A call of the handler that is bound to a tag. -/
structure HandlerCall where
  /-- The name of the tag. -/
  id : String
  shape : TagShape
  /-- What the handler is given. -/
  content : Option Fragment

/-- What a recorded rendering has met so far, and the calls made in it. -/
structure CallLog where
  state : CallState
  calls : List HandlerCall

/-- A computation in the course of a recorded rendering. -/
abbrev RecordM := ExceptT RenderError (StateM CallLog)

namespace RecordM

variable {α β : Type}

def outcome (x : RecordM α) (log : CallLog) : Except RenderError α × CallLog :=
  x.run.run log

def silent (x : RenderM α) : RecordM α :=
  .mk fun log => ((x.outcome log.state).1, ⟨(x.outcome log.state).2, log.calls⟩)

/-- Give a tag its content. This is recorded if the handler is one that an argument binds
    to the tag, and not if it is the plain tag. -/
def call (env : Environment) (t : PlainTag) (handler : Handler) (content : Option Fragment) :
    RecordM Fragment := do
  if (env.arguments t.id).isSome then
    modify fun log => { log with calls := log.calls ++ [⟨t.id, t.shape, content⟩] }
  return handler content

theorem outcome_bind (x : RecordM α) (f : α → RecordM β) (log : CallLog) :
    outcome (x >>= f) log =
      match outcome x log with
      | (.ok a, log') => outcome (f a) log'
      | (.error e, log') => (.error e, log') := by
  unfold outcome
  rw [ExceptT.run_bind, StateT.run_bind]
  rcases x.run.run log with ⟨_ | a, log'⟩ <;> rfl

theorem outcome_call (env : Environment) (t : PlainTag) (handler : Handler)
    (content : Option Fragment) (log : CallLog) :
    outcome (call env t handler content) log =
      (.ok (handler content),
        ⟨log.state, log.calls ++
          if (env.arguments t.id).isSome then [⟨t.id, t.shape, content⟩] else []⟩) := by
  unfold call
  split
  · rfl
  · rw [List.append_nil]
    rfl

/-- The steps of a rendering are steps of a recorded one. -/
instance : MonadLift RenderM RecordM :=
  ⟨silent⟩

end RecordM

namespace Template

open RenderM RecordM

/-- Render a template and record the calls of handlers. -/
def renderRecorded (env : Environment) (t : Template) : RecordM Fragment :=
  t.renderBy (call env) env

/-- Render a template from the start: the rendering, and the calls of handlers in order. -/
def runRecorded (t : Template) (env : Environment) :
    Except RenderError Rendering × List HandlerCall :=
  match (t.renderRecorded env).outcome ⟨.start, []⟩ with
  | (.ok content, log) => (.ok ⟨content, log.state.absences⟩, log.calls)
  | (.error e, log) => (.error e, log.calls)

end Template

/-! ### Properties that rendering keeps -/

/-- A property that texts have, and that fragments put together have if their parts do. -/
structure Fragment.Closed (F : Fragment → Prop) : Prop where
  text : ∀ s, F (.text s)
  joined : ∀ ps, (∀ p ∈ ps, F p) → F (.concat ps)

/-- What a handler returns has a property, if it is given nothing or what has the property. -/
structure Handler.Keeps (F : Fragment → Prop) (f : Handler) : Prop where
  around : ∀ p, F p → F (f (some p))
  alone : F (f none)

theorem PlainTag.keeps {F : Fragment → Prop} (hF : Fragment.Closed F) (t : PlainTag) :
    Handler.Keeps F t.render := by
  have haround : ∀ opening closing p, F p → F (.concat [.text opening, p, .text closing]) := by
    intro opening closing p hp
    apply hF.joined
    intro q hq
    simp only [List.mem_cons, List.not_mem_nil, or_false] at hq
    rcases hq with rfl | rfl | rfl
    · exact hF.text _
    · exact hp
    · exact hF.text _
  unfold render
  cases t.shape with
  | empty => exact ⟨fun _ _ => hF.text _, hF.text _⟩
  | paired => exact ⟨haround _ _, haround _ _ _ (hF.text "")⟩

def Arguments.HandlersKeep (F : Fragment → Prop) (args : Arguments) : Prop :=
  ∀ id f, args id = some (.handler f) → Handler.Keeps F f

/-- A tag around children has given its handler a content with a property, and a tag that
    closes itself has given it nothing. -/
def HandlerCall.Gives (F : Fragment → Prop) (c : HandlerCall) : Prop :=
  match c.shape with
  | .paired => ∃ p, c.content = some p ∧ F p
  | .empty => c.content = none

/-! ### What computations give -/

namespace RenderM

/-- All that a computation gives has a property. -/
structure Gives {α : Type} (R : α → Prop) (y : RenderM α) : Prop where
  of_ok : ∀ s a, (y.outcome s).1 = .ok a → R a

namespace Gives

variable {α β : Type} {R : α → Prop} {Q : β → Prop}

theorem any (y : RenderM α) : Gives (fun _ => True) y :=
  ⟨fun _ _ _ => trivial⟩

theorem pure {a : α} (h : R a) : Gives R (Pure.pure a) where
  of_ok := by
    intro s b hb
    rwa [← Except.ok.inj hb]

theorem throw (e : RenderError) : Gives R (MonadExcept.throw e) :=
  ⟨fun _ _ => nofun⟩

theorem bind {y : RenderM α} {g : α → RenderM β} (hy : Gives R y)
    (hg : ∀ a, R a → Gives Q (g a)) : Gives Q (y >>= g) where
  of_ok := by
    intro s b hb
    rw [outcome_bind] at hb
    rcases hs : y.outcome s with ⟨e | a, s'⟩
    · rw [hs] at hb
      cases hb
    · rw [hs] at hb
      have ha : R a := hy.of_ok s a (by rw [hs])
      exact (hg a ha).of_ok s' b hb

theorem require {id : String} {expected : Expectation} {r : Option α} (h : ∀ a, r = some a → R a) :
    Gives R (RenderM.require id expected r) := by
  cases r with
  | some a => exact pure (h a rfl)
  | none => exact throw _

end Gives

end RenderM

namespace Template

open RenderM

variable {F : Fragment → Prop} {env : Environment}

theorem gives_of_argument? (hF : Fragment.Closed F) {id : String} {f : Value → RenderM Fragment}
    (h : ∀ v, Gives F (f v)) :
    Gives F (do
      match ← argument? env id with
      | none => return .empty
      | some v => f v) := by
  apply Gives.bind (Gives.any _)
  intro v? _
  cases v? with
  | none => exact .pure (hF.text "")
  | some v => exact h v

theorem gives_argument (hF : Fragment.Closed F) (id : String) :
    Gives F (renderArgument env id) := by
  apply gives_of_argument? hF
  intro v
  apply Gives.bind (Gives.any _)
  intro shown _
  exact .pure (hF.text _)

theorem gives_number (hF : Fragment.Closed F) (id : String) (offset : Int64)
    (style : NumberStyle) : Gives F (renderNumber env id offset style) := by
  apply gives_of_argument? hF
  intro v
  apply Gives.bind (Gives.any _)
  intro q _
  apply Gives.bind (Gives.any _)
  intro written _
  exact .pure (hF.text written)

theorem gives_moment (hF : Fragment.Closed F) (id : String) (kind : TemporalKind)
    (style : TemporalStyle) : Gives F (renderMoment env id kind style) := by
  apply gives_of_argument? hF
  intro v
  apply Gives.bind (Gives.any _)
  intro m _
  apply Gives.bind (Gives.any _)
  intro written _
  exact .pure (hF.text written)

/-- The handler of a tag keeps the property, be it bound or plain. -/
theorem gives_tagHandler (hF : Fragment.Closed F) (h : env.arguments.HandlersKeep F)
    (t : PlainTag) : Gives (Handler.Keeps F) (tagHandler env t) := by
  unfold tagHandler
  cases hbound : env.arguments t.id with
  | none =>
    -- the plain tag may be an earlier one of the name, and of another shape
    apply Gives.bind (Gives.any _)
    intro first _
    exact .pure (PlainTag.keeps hF first)
  | some v =>
    apply Gives.require
    intro f hf
    cases v with
    | handler g =>
      obtain rfl := Option.some.inj hf
      exact h t.id g hbound
    | _ => cases hf

end Template

/-! ### Recorded computations that follow others -/

namespace RecordM

variable {α β : Type} {K : HandlerCall → Prop} {R : α → Prop} {Q : β → Prop}

/-- A recorded computation follows another one, which gives only what has a property: from
    every state it has the same outcome, and it adds only calls of one kind to those made
    before. -/
structure Follows (K : HandlerCall → Prop) (R : α → Prop) (x : RecordM α) (y : RenderM α) :
    Prop where
  gives : RenderM.Gives R y
  adds : ∀ s calls, ∃ more,
    x.outcome ⟨s, calls⟩ = ((y.outcome s).1, ⟨(y.outcome s).2, calls ++ more⟩) ∧
      ∀ c ∈ more, K c

namespace Follows

theorem of_silent {x : RecordM α} {y : RenderM α} (hgives : RenderM.Gives R y)
    (h : ∀ log, x.outcome log = ((y.outcome log.state).1, ⟨(y.outcome log.state).2, log.calls⟩)) :
    Follows K R x y where
  gives := hgives
  adds := by
    intro s calls
    refine ⟨[], ?_, by simp⟩
    rw [h, List.append_nil]

theorem pure {a : α} (h : R a) : Follows K R (Pure.pure a) (Pure.pure a) :=
  .of_silent (.pure h) fun _ => rfl

theorem silent {y : RenderM α} (h : RenderM.Gives R y) : Follows K R (RecordM.silent y) y :=
  .of_silent h fun _ => rfl

theorem bind {x : RecordM α} {y : RenderM α} {f : α → RecordM β} {g : α → RenderM β}
    (hx : Follows K R x y) (hf : ∀ a, R a → Follows K Q (f a) (g a)) :
    Follows K Q (x >>= f) (y >>= g) where
  gives := hx.gives.bind fun a ha => (hf a ha).gives
  adds := by
    intro s calls
    obtain ⟨more, hxs, hmore⟩ := hx.adds s calls
    -- if the first step fails, its calls are all there are
    rw [RecordM.outcome_bind, RenderM.outcome_bind, hxs]
    rcases hy : y.outcome s with ⟨e | a, s'⟩
    · exact ⟨more, rfl, hmore⟩
    · have ha : R a := hx.gives.of_ok s a (by rw [hy])
      obtain ⟨more', hfs, hmore'⟩ := (hf a ha).adds s' (calls ++ more)
      refine ⟨more ++ more', ?_, ?_⟩
      · rw [← List.append_assoc]
        exact hfs
      · intro c hc
        rcases List.mem_append.mp hc with hc | hc
        · exact hmore c hc
        · exact hmore' c hc

/-- A call of the right kind may be added, or not if the handler is a plain tag. -/
theorem call {env : Environment} {t : PlainTag} {handler : Handler} {content : Option Fragment}
    {F : Fragment → Prop} (hcall : K ⟨t.id, t.shape, content⟩) (hresult : F (handler content)) :
    Follows K F (RecordM.call env t handler content) (Pure.pure (handler content)) where
  gives := .pure hresult
  adds := by
    intro s calls
    refine ⟨_, RecordM.outcome_call env t handler content ⟨s, calls⟩, ?_⟩
    intro c hc
    -- one call is added if the handler is bound, and none if it is the plain tag
    split at hc
    · rw [List.mem_singleton.mp hc]
      exact hcall
    · exact absurd hc List.not_mem_nil

end Follows

end RecordM

namespace Template

open RenderM RecordM

section
variable {K : HandlerCall → Prop} {F : Fragment → Prop} {env : Environment}

theorem followsAll {ts : List Template}
    (h : ∀ t ∈ ts, Follows K F (t.renderRecorded env) (t.render env)) :
    Follows K (fun ps => ∀ p ∈ ps, F p) (ts.mapM (renderRecorded env)) (ts.mapM (render env)) := by
  induction ts with
  | nil => exact .pure (by simp)
  | cons t ts ih =>
    obtain ⟨ht, hts⟩ := List.forall_mem_cons.mp h
    rw [List.mapM_cons, List.mapM_cons]
    apply ht.bind
    intro p hp
    apply (ih hts).bind
    intro ps hps
    exact .pure (List.forall_mem_cons.mpr ⟨hp, hps⟩)

/-- **A recorded rendering follows the rendering.** A property that putting together and the
    bound handlers keep holds of what is rendered and of what handlers are given. -/
theorem follows (hF : Fragment.Closed F) (hkeep : env.arguments.HandlersKeep F) (t : Template) :
    Follows (HandlerCall.Gives F) F (t.renderRecorded env) (t.render env) := by
  -- induction over the template; handlers are called for tags only
  induction t using Template.induct with
  | literal text => exact .pure (hF.text text)
  | argument id => exact .silent (gives_argument hF id)
  | number id offset style => exact .silent (gives_number hF id offset style)
  | moment id kind style => exact .silent (gives_moment hF id kind style)
  | sequence ts ih =>
    rw [renderRecorded, renderBy, renderAllBy_eq, render_sequence]
    apply (followsAll ih).bind
    intro ps hps
    exact .pure (hF.joined ps hps)
  | plural id kind offset exact keyed other ihExact ihKeyed ihOther =>
    rw [renderRecorded, renderBy, render_plural]
    simp only [renderExactBy_eq, renderKeyedBy_eq]
    apply Follows.bind (.silent (.any _))
    intro v? _
    cases v? with
    | none => exact ihOther
    | some v =>
      apply Follows.bind (.silent (.any _))
      intro q _
      apply rel_getD (rel_find? ihExact)
      -- the localizer is asked only if there are branches for categories
      by_cases hkeyed : keyed.isEmpty = true
      · rw [if_pos hkeyed, if_pos hkeyed]
        exact ihOther
      · rw [if_neg hkeyed, if_neg hkeyed]
        apply Follows.bind (.silent (.any _))
        intro c _
        exact rel_getD (rel_lookup ihKeyed) ihOther
  | select id branches other ihBranches ihOther =>
    rw [renderRecorded, renderBy, render_select]
    simp only [renderKeyedBy_eq]
    apply Follows.bind (.silent (.any _))
    intro v? _
    cases v? with
    | none => exact ihOther
    | some v =>
      apply Follows.bind (.silent (.any _))
      intro key _
      exact rel_getD (rel_lookup ihBranches) ihOther
  | tag id attributes children ih =>
    rw [renderRecorded, renderBy, render_tag]
    apply Follows.bind (.silent (gives_tagHandler hF hkeep _))
    intro handler hhandler
    apply ih.bind
    intro content hcontent
    -- the content has the property, so what the handler returns for it has it too
    exact .call ⟨content, rfl, hcontent⟩ (hhandler.around content hcontent)
  | emptyTag id attributes =>
    rw [renderRecorded, renderBy, render_emptyTag]
    apply Follows.bind (.silent (gives_tagHandler hF hkeep _))
    intro handler hhandler
    exact .call rfl hhandler.alone

/-- So a recorded run gives what the run gives, and the calls in it are of the same kind. -/
theorem runRecorded_of_keep (hF : Fragment.Closed F) (hkeep : env.arguments.HandlersKeep F)
    (t : Template) :
    (t.runRecorded env).1 = t.run env ∧ (∀ c ∈ (t.runRecorded env).2, c.Gives F) ∧
      ∀ r, t.run env = .ok r → F r.content := by
  obtain ⟨hgives, hadds⟩ := follows hF hkeep t
  -- at the start there are no calls, so all that are recorded have been added
  obtain ⟨calls, houtcome, hcalls⟩ := hadds .start []
  have hcontent := hgives.of_ok .start
  unfold runRecorded
  rw [run_eq, houtcome, List.nil_append]
  rcases hresult : (t.render env).outcome .start with ⟨e | content, s⟩
  · exact ⟨rfl, hcalls, nofun⟩
  · refine ⟨rfl, hcalls, ?_⟩
    intro r hr
    obtain rfl := Except.ok.inj hr
    exact hcontent content (by rw [hresult])

/-- **Recording changes nothing.** -/
theorem runRecorded_fst (t : Template) (env : Environment) : (t.runRecorded env).1 = t.run env :=
  (runRecorded_of_keep (F := fun _ => True) ⟨fun _ => trivial, fun _ _ => trivial⟩
    (fun _ _ _ => ⟨fun _ _ => trivial, trivial⟩) t).1

end

end Template

end Phrasebook
