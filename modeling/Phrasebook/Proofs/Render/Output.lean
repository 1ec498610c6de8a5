import Phrasebook.Proofs.Render.Asked
import Phrasebook.Proofs.Render.Visited

/-! # Rendering without a state

    What a rendering gives is a function of the pattern and of how tags without a
    handler are written: no state is needed to say so. `Pattern.output` is this
    function. It takes the way in which tags are written as an argument.

    A rendering writes a tag without a handler as the first tag of its name among
    the tags that it comes to, which `Pattern.tagsMet` lists in advance. Together
    with the walk `Pattern.asked` this says all of what a rendering gives:
    `Template.run_eq_output`.
-/

namespace Phrasebook

/-! ### The output of a pattern -/

/-- A reading of an argument, or the error that there is none. -/
def reading {α : Type} (id : String) (expected : Expectation) : Option α → Except RenderError α
  | some a => .ok a
  | none => .error (.invalidArgument id expected)

namespace Environment

/-- What a placeholder shows of its argument once it is read in some way; nothing of an
    absent one. -/
def placeholder {α : Type} (env : Environment) (id : String) (expected : Expectation)
    (read : Value → Option α) (text : α → Except LocaleError String) :
    Except RenderError Fragment :=
  match env.arguments id with
  | none => .ok .empty
  | some v => do
    let a ← reading id expected (read v)
    match text a with
    | .ok s => .ok (.text s)
    | .error e => .error (.locale e)

def numberOutput (env : Environment) (id : String) (offset : Int64) (style : NumberStyle) :
    Except RenderError Fragment :=
  env.placeholder id .number Value.quantity? fun q => env.localizer.number style (q.minus offset)

/-- The handler of a tag: the one bound to its name, or else the given way to write it. -/
def handlerOf (env : Environment) (plain : PlainTag → Handler) (t : PlainTag) :
    Except RenderError Handler :=
  match env.arguments t.id with
  | some v => reading t.id .handler v.handler?
  | none => .ok (plain t)

end Environment

mutual

/-- The output of an element inside a given plural, or inside none, where tags without
    a handler are written in a given way. -/
def Element.output (env : Environment) (plain : PlainTag → Handler) (c : Option PluralContext) :
    Element → Except RenderError Fragment
  | .literal text => .ok (.text text)
  | .argument id => env.placeholder id .shown Value.shown? fun s => .ok (Text.escaped s)
  | .number id offset style => env.numberOutput id offset style
  | .moment id kind style =>
    env.placeholder id .moment Value.readMoment? (env.localizer.moment kind style)
  | .pound =>
    match c with
    | some around => env.numberOutput around.id around.offset .plain
    | none => .ok .empty
  | .plural id kind offset bs => do
    let key ← env.pluralKey id kind offset (bs.map Prod.fst)
    Branches.outputUnder env plain (some ⟨id, offset⟩) key bs
  | .select id bs => do
    let key ← env.selectKey id (bs.map Prod.fst)
    Branches.outputUnder env plain c key bs
  | .tag id attributes es => do
    let handler ← env.handlerOf plain ⟨id, attributes, .paired⟩
    let ps ← Pattern.outputs env plain c es
    return handler (some (.ofParts ps))
  | .emptyTag id attributes => do
    let handler ← env.handlerOf plain ⟨id, attributes, .empty⟩
    return handler none

def Pattern.outputs (env : Environment) (plain : PlainTag → Handler) (c : Option PluralContext) :
    List Element → Except RenderError (List Fragment)
  | [] => .ok []
  | e :: es => do
    let p ← e.output env plain c
    let ps ← Pattern.outputs env plain c es
    return p :: ps

def Branches.outputUnder (env : Environment) (plain : PlainTag → Handler)
    (c : Option PluralContext) (key : String) :
    List (String × List Element) → Except RenderError Fragment
  | [] => .ok .empty
  | (k, es) :: bs =>
    if k = key then do
      let ps ← Pattern.outputs env plain c es
      return .ofParts ps
    else Branches.outputUnder env plain c key bs

end

def Pattern.output (env : Environment) (plain : PlainTag → Handler) (c : Option PluralContext)
    (p : Pattern) : Except RenderError Fragment := do
  let ps ← Pattern.outputs env plain c p
  return .ofParts ps

theorem Pattern.outputs_eq (env : Environment) (plain : PlainTag → Handler)
    (c : Option PluralContext) (p : Pattern) :
    outputs env plain c p = p.mapM (Element.output env plain c) := by
  induction p with
  | nil => rw [outputs, List.mapM_nil]; rfl
  | cons e es ih => rw [outputs, List.mapM_cons, ih]

theorem Pattern.outputs_append (env : Environment) (plain : PlainTag → Handler)
    (c : Option PluralContext) (p q : Pattern) :
    outputs env plain c (p ++ q) = do
      let ps ← outputs env plain c p
      let qs ← outputs env plain c q
      return ps ++ qs := by
  simp only [outputs_eq, List.mapM_append]

/-! ### The first tag of a name -/

def firstNamed (tags : List PlainTag) (id : String) : Option PlainTag :=
  tags.find? fun t => t.id == id

/-- Tags written as the first of their name among given ones. -/
def writtenAsFirst (tags : List PlainTag) (t : PlainTag) : Handler :=
  ((firstNamed tags t.id).getD t).render

theorem firstNamed_append (tags tags' : List PlainTag) (id : String) :
    firstNamed (tags ++ tags') id = (firstNamed tags id).or (firstNamed tags' id) :=
  List.find?_append

theorem firstNamed_self (t : PlainTag) (tags : List PlainTag) :
    firstNamed (t :: tags) t.id = some t := by
  simp [firstNamed]

theorem firstNamed_singleton_of_ne {t : PlainTag} {id : String} (h : t.id ≠ id) :
    firstNamed [t] id = none := by
  simp [firstNamed, h]

/-- A state remembers the first of each name among the tags met so far. -/
def CallState.Remembers (env : Environment) (s : CallState) (tags : List PlainTag) : Prop :=
  ∀ id, env.arguments id = none → s.plainTags.lookup id = firstNamed tags id

namespace CallState.Remembers

variable {env : Environment} {s : CallState} {tags : List PlainTag} {t : PlainTag}

theorem start : CallState.start.Remembers env [] :=
  fun _ _ => rfl

/-- A tag with a handler is of no account to what is remembered. -/
theorem handled (h : s.Remembers env tags) (hbound : env.arguments t.id ≠ none) :
    s.Remembers env (tags ++ [t]) := by
  intro id habsent
  have hne : t.id ≠ id := fun heq => hbound (heq ▸ habsent)
  rw [h id habsent, firstNamed_append, firstNamed_singleton_of_ne hne, Option.or_none]

/-- A tag without a handler is written as the first of its name, whatever comes later. -/
theorem render_plainTag (h : s.Remembers env tags) (habsent : env.arguments t.id = none)
    (later : List PlainTag) :
    (s.plainTag t).1.render = writtenAsFirst (tags ++ [t] ++ later) t := by
  have hfirst := h t.id habsent
  rw [writtenAsFirst, List.append_assoc, firstNamed_append, List.singleton_append,
    firstNamed_self, CallState.plainTag, hfirst]
  cases firstNamed tags t.id <;> rfl

/-- After it, the tag counts among those that are remembered. -/
theorem plainTag (h : s.Remembers env tags) (habsent : env.arguments t.id = none) :
    (s.plainTag t).2.Remembers env (tags ++ [t]) := by
  intro id hid
  rw [firstNamed_append, ← h id hid]
  have hfirst := h t.id habsent
  unfold CallState.plainTag
  cases hlookup : s.plainTags.lookup t.id with
  | some first =>
    -- a later tag of its name changes nothing, neither in the state nor among the first
    by_cases hname : t.id = id
    · subst hname
      simp only [hlookup, Option.some_or]
    · simp only [firstNamed_singleton_of_ne hname, Option.or_none]
  | none =>
    -- the first of its name is put behind all others
    simp only [List.lookup_append, Table.lookup_entry, List.lookup_nil]
    by_cases hname : t.id = id
    · subst hname
      rw [if_pos rfl, firstNamed_self]
    · rw [if_neg (Ne.symm hname), firstNamed_singleton_of_ne hname]

end CallState.Remembers

/-! ### Computations that follow a function -/

namespace RenderM

variable {α β : Type} {env : Environment}

theorem outcome_require (id : String) (expected : Expectation) (r : Option α) (s : CallState) :
    outcome (require id expected r) s = (reading id expected r, s) := by
  cases r <;> rfl

/-- **Following**: after any tags and before any others, the computation gives what a
    function gives with tags written as the first of their name, and it meets the tags
    in between. -/
def Follows (env : Environment) (met : List PlainTag)
    (r : (PlainTag → Handler) → Except RenderError α) (x : RenderM α) : Prop :=
  ∀ s before after, s.Remembers env before →
    (x.outcome s).1 = r (writtenAsFirst (before ++ met ++ after)) ∧
      ∀ a s', x.outcome s = (.ok a, s') → s'.Remembers env (before ++ met)

namespace Follows

/-- A computation that leaves the plain tags alone follows its result. -/
theorem of_outcome {x : RenderM α} {r : Except RenderError α}
    (h : ∀ s, (x.outcome s).1 = r ∧ (x.outcome s).2.plainTags = s.plainTags) :
    Follows env [] (fun _ => r) x := by
  intro s before after hs
  refine ⟨(h s).1, fun a s' hrun id habsent => ?_⟩
  have htags := (h s).2
  rw [hrun] at htags
  rw [htags, List.append_nil]
  exact hs id habsent

theorem pure (a : α) : Follows env [] (fun _ => .ok a) (Pure.pure a) :=
  of_outcome fun _ => ⟨rfl, rfl⟩

theorem bind {met met' : List PlainTag} {r : (PlainTag → Handler) → Except RenderError α}
    {g : α → (PlainTag → Handler) → Except RenderError β} {x : RenderM α} {f : α → RenderM β}
    (hx : Follows env met r x) (hf : ∀ a, Follows env met' (g a) (f a)) :
    Follows env (met ++ met') (fun plain => r plain >>= fun a => g a plain) (x >>= f) := by
  intro s before after hs
  -- the tags that the second step meets come later, as far as the first one is concerned
  obtain ⟨hresult, hstate⟩ := hx s before (met' ++ after) hs
  have hassoc : before ++ met ++ (met' ++ after) = before ++ (met ++ met') ++ after := by simp
  rw [hassoc] at hresult
  simp only [outcome_bind, ← hresult]
  rcases hstep : x.outcome s with ⟨e | a, s₁⟩
  · -- the tags of the second step are not met, and no state is left to speak of
    exact ⟨rfl, fun b s' h => by cases h⟩
  · obtain ⟨hsecond, hstate'⟩ := hf a s₁ (before ++ met) after (hstate a s₁ hstep)
    have hassoc' : before ++ met ++ met' = before ++ (met ++ met') := List.append_assoc ..
    rw [hassoc'] at hsecond hstate'
    exact ⟨hsecond, hstate'⟩

/-- Taking a result that is there goes on with it; an error ends the computation. -/
theorem ofResult {r : Except RenderError α} {met : List PlainTag}
    {g : α → (PlainTag → Handler) → Except RenderError β} {f : α → RenderM β}
    (h : ∀ a, r = .ok a → Follows env met (g a) (f a)) :
    Follows env met (fun plain => r >>= fun a => g a plain) (RenderM.ofResult r >>= f) := by
  cases r with
  | ok a => exact h a rfl
  | error e =>
    intro s before after _
    exact ⟨rfl, fun b s' h => by cases h⟩

theorem argument? (id : String) :
    Follows env [] (fun _ => .ok (env.arguments id)) (RenderM.argument? env id) := by
  refine of_outcome fun s => ?_
  rw [outcome_argument?]
  cases env.arguments id with
  | none => exact ⟨rfl, rfl⟩
  | some v => exact ⟨rfl, rfl⟩

/-- A tag without a handler is met; one with a handler is of no account to the others. -/
theorem tagHandler (t : PlainTag) :
    Follows env [t] (fun plain => env.handlerOf plain t) (RenderM.tagHandler env t) := by
  intro s before after hs
  simp only [outcome_tagHandler, Environment.handlerOf]
  cases harg : env.arguments t.id with
  | some v =>
    dsimp only
    rw [outcome_require]
    refine ⟨rfl, fun a s' h => ?_⟩
    obtain rfl : s = s' := (Prod.mk.inj h).2
    exact hs.handled (harg ▸ Option.some_ne_none v)
  | none =>
    refine ⟨congrArg Except.ok (hs.render_plainTag harg after), fun a s' h => ?_⟩
    obtain rfl : (s.plainTag t).2 = s' := (Prod.mk.inj h).2
    exact hs.plainTag harg

theorem mapM {ι : Type} {met : ι → List PlainTag}
    {r : ι → (PlainTag → Handler) → Except RenderError α} {f : ι → RenderM α} {xs : List ι}
    (h : ∀ x ∈ xs, Follows env (met x) (r x) (f x)) :
    Follows env (xs.flatMap met) (fun plain => xs.mapM fun x => r x plain) (xs.mapM f) := by
  induction xs with
  | nil => exact pure []
  | cons x xs ih =>
    obtain ⟨hx, hxs⟩ := List.forall_mem_cons.mp h
    simp only [List.mapM_cons, List.flatMap_cons]
    refine bind hx fun a => ?_
    rw [← List.append_nil (xs.flatMap met)]
    exact bind (ih hxs) fun as => pure (a :: as)

end Follows

end RenderM

/-! ### Renderings follow the output -/

section
variable {env : Environment} {c : Option PluralContext}

open RenderM

theorem follows_placeholder {α : Type} (id : String) (expected : Expectation)
    (read : Value → Option α) (text : α → Except LocaleError String) :
    Follows env [] (fun _ => env.placeholder id expected read text) (do
      match ← RenderM.argument? env id with
      | none => return .empty
      | some v =>
        let a ← RenderM.require id expected (read v)
        return .text (← RenderM.ofLocale (text a))) := by
  refine .of_outcome fun s => ?_
  simp only [outcome_bind, outcome_argument?, Environment.placeholder]
  -- nothing shown, an error, or the text of what was read: the state is left alone each time
  cases env.arguments id with
  | none => exact ⟨rfl, rfl⟩
  | some v =>
    simp only [outcome_bind, outcome_require]
    cases read v with
    | none => exact ⟨rfl, rfl⟩
    | some a =>
      simp only [reading, bind, Except.bind]
      cases text a with
      | error e => exact ⟨rfl, rfl⟩
      | ok text => exact ⟨rfl, rfl⟩

theorem follows_renderArgument (id : String) :
    Follows env [] (fun _ => env.placeholder id .shown Value.shown? fun s => .ok (Text.escaped s))
      (Template.renderArgument env id) :=
  follows_placeholder id .shown Value.shown? fun s => .ok (Text.escaped s)

theorem follows_renderNumber (id : String) (offset : Int64) (style : NumberStyle) :
    Follows env [] (fun _ => env.numberOutput id offset style)
      (Template.renderNumber env id offset style) :=
  follows_placeholder id .number Value.quantity? _

theorem follows_renderMoment (id : String) (kind : TemporalKind) (style : TemporalStyle) :
    Follows env []
      (fun _ => env.placeholder id .moment Value.readMoment? (env.localizer.moment kind style))
      (Template.renderMoment env id kind style) :=
  follows_placeholder id .moment Value.readMoment? _

theorem Pattern.follows_renderEach {p : Pattern} {f : List Fragment → Fragment}
    (h : ∀ e ∈ p, Follows env (e.tagsMet env c) (fun plain => e.output env plain c)
      (e.renderIn env c)) :
    Follows env (Pattern.tagsMet env c p)
      (fun plain => do
        let ps ← Pattern.outputs env plain c p
        return f ps)
      (do
        let ps ← Pattern.renderEach env c p
        return f ps) := by
  simp only [Pattern.outputs_eq]
  rw [Pattern.renderEach_eq, Pattern.tagsMet_eq, ← List.append_nil (p.flatMap _)]
  exact .bind (.mapM h) fun ps => .pure (f ps)

theorem Branches.follows_renderUnder {bs : Branches} (key : String)
    (h : ∀ b ∈ bs, Follows env (Pattern.tagsMet env c b.2)
      (fun plain => Pattern.output env plain c b.2) (Pattern.renderIn env c b.2)) :
    Follows env (Branches.tagsMet env c key bs)
      (fun plain => Branches.outputUnder env plain c key bs)
      (Branches.renderUnder env c key bs) := by
  induction bs with
  | nil => exact .pure _
  | cons b bs ih =>
    obtain ⟨k, es⟩ := b
    obtain ⟨hhead, hrest⟩ := List.forall_mem_cons.mp h
    simp only [Branches.tagsMet, Branches.visited, Branches.outputUnder, Branches.renderUnder]
    split
    · exact hhead
    · exact ih hrest

theorem Branches.follows_choice {id : String} {key? : Except RenderError String} {bs : Branches}
    (h : ∀ b ∈ bs, Follows env (Pattern.tagsMet env c b.2)
      (fun plain => Pattern.output env plain c b.2) (Pattern.renderIn env c b.2)) :
    Follows env
      (match key? with
        | .ok key => Branches.tagsMet env c key bs
        | .error _ => [])
      (fun plain => do
        let key ← key?
        Branches.outputUnder env plain c key bs)
      (do
        let _ ← RenderM.argument? env id
        let key ← RenderM.ofResult key?
        Branches.renderUnder env c key bs) := by
  have hbranch : ∀ key, key? = .ok key →
      Follows env
        (match key? with
          | .ok key => Branches.tagsMet env c key bs
          | .error _ => [])
        (fun plain => Branches.outputUnder env plain c key bs)
        (Branches.renderUnder env c key bs) := by
    intro key hkey
    rw [hkey]
    exact Branches.follows_renderUnder key h
  -- looking the argument up meets no tags, and its value is already in the key
  have hlookup : Follows env [] (fun _ => .ok (env.arguments id)) (RenderM.argument? env id) :=
    .argument? id
  exact hlookup.bind fun _ => .ofResult hbranch

/-- **An element gives its output.** -/
theorem Element.follows_renderIn (e : Element) : ∀ c,
    Follows env (e.tagsMet env c) (fun plain => e.output env plain c) (e.renderIn env c) := by
  -- induction over the element; each case says which tags are met before which
  induction e using Element.induct with
  | literal text =>
    intro c
    exact .pure _
  | argument id =>
    intro c
    exact follows_renderArgument id
  | number id offset style =>
    intro c
    exact follows_renderNumber id offset style
  | moment id kind style =>
    intro c
    exact follows_renderMoment id kind style
  | pound =>
    intro c
    cases c with
    | none => exact .pure _
    | some around => exact follows_renderNumber around.id around.offset .plain
  | plural id kind offset bs ih =>
    intro c
    rw [Element.tagsMet_plural, Element.renderIn]
    simp only [Element.output]
    -- the key is told by the arguments and the localizer, whatever tags were met before
    exact Branches.follows_choice fun b hb =>
      Pattern.follows_renderEach fun e he => ih b hb e he _
  | select id bs ih =>
    intro c
    rw [Element.tagsMet_select, Element.renderIn]
    simp only [Element.output]
    exact Branches.follows_choice fun b hb =>
      Pattern.follows_renderEach fun e he => ih b hb e he _
  | tag id attributes es ih =>
    intro c
    rw [Element.renderIn]
    simp only [Element.output]
    -- the tag itself is met before its children
    exact .bind (.tagHandler ⟨id, attributes, .paired⟩) fun handler =>
      Pattern.follows_renderEach fun e he => ih e he c
  | emptyTag id attributes =>
    intro c
    exact .bind (.tagHandler _) fun handler => .pure _

end

/-- **What a rendering gives.** The output of the pattern, with each tag without a
    handler written as the first of its name among the tags met, and the absent ones
    among the arguments asked for; or the error of the output. -/
theorem Template.run_eq_output {p : Pattern} (ordered : p.Ordered) {t : Template}
    (h : compile p = .ok t) (env : Environment) :
    t.run env =
      (p.output env (writtenAsFirst (Pattern.tagsMet env none p)) none).map fun content =>
        ⟨content, ⟨env.absentAmong (Pattern.asked env none p)⟩⟩ := by
  have hfollows : RenderM.Follows env (Pattern.tagsMet env none p)
      (fun plain => p.output env plain none) (p.renderIn env none) :=
    Pattern.follows_renderEach fun e _ => e.follows_renderIn none
  -- from the start to the end, there are no tags before and none behind
  have hresult : ((p.renderIn env none).outcome .start).1 =
      p.output env (writtenAsFirst (Pattern.tagsMet env none p)) none := by
    simpa using (hfollows .start [] [] .start).1
  have hrun := run_eq t env
  rw [render_eq_of_compile ordered h] at hrun
  rcases houtcome : (p.renderIn env none).outcome .start with ⟨e | content, s⟩
  · rw [houtcome] at hrun hresult
    rw [hrun, ← hresult]
    rfl
  · rw [houtcome] at hrun hresult
    have habsent : s.absences.ids = env.absentAmong (Pattern.asked env none p) :=
      absences_of_run ordered h hrun
    rw [hrun, ← hresult, ← habsent]
    rfl

end Phrasebook
