import Phrasebook.Proofs.Render.Direct

/-! # The arguments that a rendering asks for

    A rendering looks arguments up from left to right: each placeholder looks its
    own up, a choice looks its own up before it enters the one branch that it
    takes, and a `#` looks up the argument of the plural around it. A tag looks
    up no argument for its name.

    The walk `Pattern.asked` lists these arguments without rendering anything.
    What a rendering records as absent are the absent ones among them, repeats
    kept.
-/

namespace Phrasebook

/-! ### The walk -/

mutual

/-- The arguments that an element inside a given plural asks for, in order. -/
def Element.asked (env : Environment) (c : Option PluralContext) : Element → List String
  | .literal _ => []
  | .argument id => [id]
  | .number id _ _ => [id]
  | .moment id _ _ => [id]
  | .pound =>
    match c with
    | some around => [around.id]
    | none => []
  | .plural id kind offset bs =>
    match env.pluralKey id kind offset (bs.map Prod.fst) with
    | .ok key => id :: Branches.asked env (some ⟨id, offset⟩) key bs
    | .error _ => [id]
  | .select id bs =>
    match env.selectKey id (bs.map Prod.fst) with
    | .ok key => id :: Branches.asked env c key bs
    | .error _ => [id]
  | .tag _ _ es => Pattern.asked env c es
  | .emptyTag _ _ => []

/-- The arguments that elements ask for, from left to right. -/
def Pattern.asked (env : Environment) (c : Option PluralContext) : List Element → List String
  | [] => []
  | e :: es => e.asked env c ++ Pattern.asked env c es

/-- The arguments that the branch under a key asks for. -/
def Branches.asked (env : Environment) (c : Option PluralContext) (key : String) :
    List (String × List Element) → List String
  | [] => []
  | (k, es) :: bs => if k = key then Pattern.asked env c es else Branches.asked env c key bs

end

/-- The absent ones among ids, repeats kept. -/
def Environment.absentAmong (env : Environment) (ids : List String) : List String :=
  ids.filter fun id => (env.arguments id).isNone

/-! ### What a computation records -/

namespace RenderM

variable {α β : Type} {env : Environment}

/-- Whenever the computation succeeds, it records the absent ones among the given
    ids, behind what was recorded before. -/
def Records (env : Environment) (ids : List String) (x : RenderM α) : Prop :=
  ∀ s a s', x.outcome s = (.ok a, s') →
    s'.absences.ids = s.absences.ids ++ env.absentAmong ids

namespace Records

theorem pure (a : α) : Records env [] (Pure.pure a : RenderM α) := by
  intro s b s' h
  rw [outcome_pure] at h
  obtain ⟨-, rfl⟩ := Prod.mk.inj h
  simp [Environment.absentAmong]

theorem throw (e : RenderError) (ids : List String) :
    Records env ids (MonadExcept.throw e : RenderM α) := by
  intro s b s' h
  rw [show outcome (MonadExcept.throw e : RenderM α) s = (.error e, s) from rfl] at h
  cases h

theorem bind {x : RenderM α} {f : α → RenderM β} {ids ids' : List String}
    (hx : Records env ids x) (hf : ∀ a, Records env ids' (f a)) :
    Records env (ids ++ ids') (x >>= f) := by
  intro s b s' h
  rw [outcome_bind] at h
  rcases hstep : x.outcome s with ⟨_ | a, s₁⟩
  · rw [hstep] at h
    cases h
  · rw [hstep] at h
    have hfirst := hx s a s₁ hstep
    have hsecond := hf a s₁ b s' h
    rw [hsecond, hfirst, Environment.absentAmong, Environment.absentAmong, Environment.absentAmong,
      List.filter_append, List.append_assoc]

/-- Taking a result that is there goes on with it; an error ends the computation. -/
theorem ofResult {r : Except RenderError α} {f : α → RenderM β} {ids : List String}
    (h : ∀ a, r = .ok a → Records env ids (f a)) :
    Records env ids (RenderM.ofResult r >>= f) := by
  cases r with
  | ok a => exact h a rfl
  | error e => exact throw e ids

theorem require (id : String) (expected : Expectation) (r : Option α) :
    Records env [] (RenderM.require id expected r) := by
  cases r with
  | some a => exact pure a
  | none => exact throw _ _

theorem ofLocale (r : Except LocaleError α) : Records env [] (RenderM.ofLocale r) := by
  cases r with
  | ok a => exact pure a
  | error e => exact throw _ _

/-- Looking an argument up records it if it is absent. -/
theorem argument? (id : String) : Records env [id] (RenderM.argument? env id) := by
  intro s a s' h
  rw [outcome_argument?] at h
  cases harg : env.arguments id with
  | some v =>
    rw [harg] at h
    obtain ⟨-, rfl⟩ := Prod.mk.inj h
    simp [Environment.absentAmong, harg]
  | none =>
    rw [harg] at h
    obtain ⟨-, rfl⟩ := Prod.mk.inj h
    simp [Environment.absentAmong, harg, CallState.recordAbsence]

theorem tagHandler (t : PlainTag) : Records env [] (RenderM.tagHandler env t) := by
  intro s a s' h
  rw [outcome_tagHandler] at h
  cases harg : env.arguments t.id with
  | some v =>
    rw [harg] at h
    exact require t.id .handler v.handler? s a s' h
  | none =>
    rw [harg] at h
    obtain ⟨-, rfl⟩ := Prod.mk.inj h
    simp only [Environment.absentAmong, List.filter_nil, List.append_nil, CallState.plainTag]
    cases s.plainTags.lookup t.id <;> rfl

theorem mapM {ι : Type} {f : ι → RenderM α} {ids : ι → List String} {xs : List ι}
    (h : ∀ x ∈ xs, Records env (ids x) (f x)) :
    Records env (xs.flatMap ids) (xs.mapM f) := by
  induction xs with
  | nil => exact pure []
  | cons x xs ih =>
    obtain ⟨hx, hxs⟩ := List.forall_mem_cons.mp h
    rw [List.mapM_cons, List.flatMap_cons]
    refine bind hx fun a => ?_
    rw [← List.append_nil (xs.flatMap ids)]
    exact bind (ih hxs) fun as => pure (a :: as)

end Records

end RenderM

/-! ### What rendering a pattern records -/

theorem Pattern.asked_eq (env : Environment) (c : Option PluralContext) (p : Pattern) :
    asked env c p = p.flatMap (Element.asked env c) := by
  induction p with
  | nil => rfl
  | cons e es ih => rw [asked, List.flatMap_cons, ih]

section
variable {env : Environment} {c : Option PluralContext}

open RenderM

/-- A placeholder that shows something of its argument asks for that argument alone. -/
theorem Records.placeholder {id : String} {f : Option Value → RenderM Fragment}
    (hf : ∀ v, Records env [] (f v)) : Records env [id] (RenderM.argument? env id >>= f) :=
  Records.bind (.argument? id) hf

theorem records_renderArgument (id : String) :
    Records env [id] (Template.renderArgument env id) := by
  refine Records.placeholder fun v => ?_
  cases v with
  | none => exact .pure _
  | some v => exact .bind (.require id .shown v.shown?) fun text => .pure _

theorem records_renderNumber (id : String) (offset : Int64) (style : NumberStyle) :
    Records env [id] (Template.renderNumber env id offset style) := by
  refine Records.placeholder fun v => ?_
  cases v with
  | none => exact .pure _
  | some v =>
    exact .bind (.require id .number v.quantity?) fun q =>
      .bind (.ofLocale _) fun text => .pure _

theorem records_renderMoment (id : String) (kind : TemporalKind) (style : TemporalStyle) :
    Records env [id] (Template.renderMoment env id kind style) := by
  refine Records.placeholder fun v => ?_
  cases v with
  | none => exact .pure _
  | some v =>
    exact .bind (.require id .moment v.readMoment?) fun m =>
      .bind (.ofLocale _) fun text => .pure _

theorem Pattern.records_renderEach {p : Pattern} {f : List Fragment → Fragment}
    (h : ∀ e ∈ p, Records env (e.asked env c) (e.renderIn env c)) :
    Records env (Pattern.asked env c p) (do
      let ps ← Pattern.renderEach env c p
      return f ps) := by
  rw [Pattern.renderEach_eq, Pattern.asked_eq, ← List.append_nil (p.flatMap _)]
  exact .bind (.mapM h) fun ps => .pure (f ps)

theorem Branches.records_renderUnder {bs : Branches} (key : String)
    (h : ∀ b ∈ bs, Records env (Pattern.asked env c b.2) (Pattern.renderIn env c b.2)) :
    Records env (Branches.asked env c key bs) (Branches.renderUnder env c key bs) := by
  induction bs with
  | nil => exact .pure _
  | cons b bs ih =>
    obtain ⟨k, es⟩ := b
    obtain ⟨hhead, hrest⟩ := List.forall_mem_cons.mp h
    rw [Branches.asked, Branches.renderUnder]
    split
    · exact hhead
    · exact ih hrest

/-- A choice looks its argument up and records what the branch under its key asks for. -/
theorem Branches.records_choice {id : String} {key? : Except RenderError String} {bs : Branches}
    (h : ∀ b ∈ bs, Records env (Pattern.asked env c b.2) (Pattern.renderIn env c b.2)) :
    Records env
      (match key? with
        | .ok key => id :: Branches.asked env c key bs
        | .error _ => [id])
      (do
        let _ ← RenderM.argument? env id
        let key ← RenderM.ofResult key?
        Branches.renderUnder env c key bs) := by
  -- without a key the argument was still looked up
  cases key? with
  | ok key => exact .bind (.argument? id) fun _ => Branches.records_renderUnder key h
  | error e => exact .bind (.argument? id) fun _ => .throw e []

/-- An element records what it asks for. -/
theorem Element.records_renderIn (e : Element) : ∀ c,
    Records env (e.asked env c) (e.renderIn env c) := by
  induction e using Element.induct with
  | literal text =>
    intro c
    exact .pure _
  | argument id =>
    intro c
    exact records_renderArgument id
  | number id offset style =>
    intro c
    exact records_renderNumber id offset style
  | moment id kind style =>
    intro c
    exact records_renderMoment id kind style
  | pound =>
    intro c
    cases c with
    | none => exact .pure _
    | some around => exact records_renderNumber around.id around.offset .plain
  | plural id kind offset bs ih =>
    intro c
    rw [Element.asked, Element.renderIn]
    exact Branches.records_choice fun b hb => Pattern.records_renderEach fun e he => ih b hb e he _
  | select id bs ih =>
    intro c
    rw [Element.asked, Element.renderIn]
    exact Branches.records_choice fun b hb => Pattern.records_renderEach fun e he => ih b hb e he _
  | tag id attributes es ih =>
    intro c
    rw [Element.asked, Element.renderIn]
    -- the name of the tag adds nothing to what the children ask for
    exact .bind (.tagHandler ⟨id, attributes, .paired⟩) fun handler =>
      Pattern.records_renderEach fun e he => ih e he c
  | emptyTag id attributes =>
    intro c
    exact .bind (.tagHandler _) fun handler => .pure _

end

/-- **What a rendering records.** A rendering that succeeds records the absent ones
    among the arguments that its pattern asks for, repeats kept. -/
theorem Template.absences_of_run {p : Pattern} (ordered : p.Ordered) {t : Template}
    (h : compile p = .ok t) {env : Environment} {r : Rendering} (hrun : t.run env = .ok r) :
    r.absences.ids = env.absentAmong (Pattern.asked env none p) := by
  rw [run_eq, render_eq_of_compile ordered h] at hrun
  have hrecords : RenderM.Records env (Pattern.asked env none p) (p.renderIn env none) :=
    Pattern.records_renderEach fun e _ => e.records_renderIn none
  rcases houtcome : (p.renderIn env none).outcome .start with ⟨_ | content, s⟩
  · rw [houtcome] at hrun
    cases hrun
  · rw [houtcome] at hrun
    cases hrun
    exact hrecords .start content s houtcome

end Phrasebook
