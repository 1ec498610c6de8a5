import Phrasebook.Proofs.Render.Output

/-! # Why a rendering fails

    A rendering fails with the first fault on its way. An element is at fault where an
    argument is bound that it cannot read as it needs to, and where the localizer
    refuses the question that it puts. An absent argument is no fault and reaches no
    localizer.

    So arguments that suit every element never fail a rendering by themselves, and an
    error that names an argument names one that is bound and does not suit.
-/

namespace Phrasebook

/-! ### The first fault on the way -/

section
variable (env : Environment)

/-- The error of an element by itself, whatever is inside it. -/
def Element.fault? (c : Option PluralContext) : Element → Option RenderError
  | .plural id kind offset bs => failure? (env.pluralKey id kind offset (bs.map Prod.fst))
  | .select id bs => failure? (env.selectKey id (bs.map Prod.fst))
  | .tag id attributes _ => failure? (env.handlerOf PlainTag.render ⟨id, attributes, .paired⟩)
  | .emptyTag id attributes => failure? (env.handlerOf PlainTag.render ⟨id, attributes, .empty⟩)
  | e => failure? (e.output env PlainTag.render c)

/-- The error of an element by itself, given with the plural around it. -/
def Environment.faultOf (v : Option PluralContext × Element) : Option RenderError :=
  v.2.fault? env v.1

end

section
variable {env : Environment} {plain : PlainTag → Handler} {c : Option PluralContext}

/-- Whether the handler of a tag can be told does not depend on how plain tags are written. -/
theorem Environment.failure?_handlerOf (plain' : PlainTag → Handler) (t : PlainTag) :
    failure? (env.handlerOf plain t) = failure? (env.handlerOf plain' t) := by
  rw [handlerOf, handlerOf]
  cases env.arguments t.id <;> rfl

theorem Pattern.failure?_outputs {p : Pattern}
    (h : ∀ e ∈ p, failure? (e.output env plain c) = (e.visited env c).findSome? env.faultOf) :
    failure? (outputs env plain c p) = (visited env c p).findSome? env.faultOf := by
  induction p with
  | nil => rfl
  | cons e es ih =>
    obtain ⟨hhead, hrest⟩ := List.forall_mem_cons.mp h
    rw [outputs, visited, List.findSome?_append, ← hhead, ← ih hrest]
    exact failure?_bind fun f _ => failure?_bind_pure (outputs env plain c es) (f :: ·)

theorem Pattern.failure?_output {p : Pattern}
    (h : ∀ e ∈ p, failure? (e.output env plain c) = (e.visited env c).findSome? env.faultOf) :
    failure? (p.output env plain c) = (visited env c p).findSome? env.faultOf := by
  have hjoined : failure? (p.output env plain c) = failure? (outputs env plain c p) :=
    failure?_bind_pure (outputs env plain c p) Fragment.ofParts
  rw [hjoined, failure?_outputs h]

theorem Branches.failure?_outputUnder {bs : Branches} (key : String)
    (h : ∀ b ∈ bs, ∀ e ∈ b.2,
      failure? (e.output env plain c) = (e.visited env c).findSome? env.faultOf) :
    failure? (outputUnder env plain c key bs) = (visited env c key bs).findSome? env.faultOf := by
  induction bs with
  | nil => rfl
  | cons b bs ih =>
    obtain ⟨k, es⟩ := b
    obtain ⟨hhead, hrest⟩ := List.forall_mem_cons.mp h
    rw [outputUnder, visited]
    split
    · exact Pattern.failure?_output hhead
    · exact ih hrest

/-- A choice fails for want of a key, or with the first fault in the branch under its key. -/
theorem Branches.failure?_choice {key? : Except RenderError String} {bs : Branches}
    (h : ∀ b ∈ bs, ∀ e ∈ b.2,
      failure? (e.output env plain c) = (e.visited env c).findSome? env.faultOf) :
    failure? (do
      let key ← key?
      outputUnder env plain c key bs) =
      (failure? key?).or (List.findSome? env.faultOf <|
        match key? with
        | .ok key => visited env c key bs
        | .error _ => []) := by
  cases key? with
  | ok key => exact failure?_outputUnder key h
  | error e => rfl

/-- **An element fails with the first fault on the way through it.** -/
theorem Element.failure?_output (e : Element) : ∀ c,
    failure? (e.output env plain c) = (e.visited env c).findSome? env.faultOf := by
  -- induction over the element: its own fault first, then those inside it in order
  induction e using Element.induct with
  | literal | argument | number | moment | pound =>
    intro c
    rw [visited, List.findSome?_singleton]
    rfl
  | plural id kind offset bs ih =>
    intro c
    rw [output, Branches.failure?_choice fun b hb e he => ih b hb e he _]
    rw [visited, ← List.singleton_append, List.findSome?_append, List.findSome?_singleton]
    rfl
  | select id bs ih =>
    intro c
    rw [output, Branches.failure?_choice fun b hb e he => ih b hb e he _]
    rw [visited, ← List.singleton_append, List.findSome?_append, List.findSome?_singleton]
    rfl
  | tag id attributes es ih =>
    intro c
    -- the handler is looked for before the children are rendered
    have htag : env.faultOf (c, .tag id attributes es) =
        failure? (env.handlerOf plain ⟨id, attributes, .paired⟩) :=
      env.failure?_handlerOf plain _
    have hchildren : failure? (Pattern.outputs env plain c es) =
        (Pattern.visited env c es).findSome? env.faultOf :=
      Pattern.failure?_outputs fun e he => ih e he c
    rw [visited, ← List.singleton_append, List.findSome?_append, List.findSome?_singleton, htag,
      ← hchildren, output]
    exact failure?_bind fun handler _ => failure?_bind_pure (Pattern.outputs env plain c es) _
  | emptyTag id attributes =>
    intro c
    have htag : env.faultOf (c, .emptyTag id attributes) =
        failure? (env.handlerOf plain ⟨id, attributes, .empty⟩) :=
      env.failure?_handlerOf plain _
    rw [visited, List.findSome?_singleton, htag, output]
    exact failure?_bind_pure (env.handlerOf plain ⟨id, attributes, .empty⟩) fun handler =>
      handler none

end

/-- **A rendering fails with the first fault on its way**, and succeeds if there is none. -/
theorem Template.failure?_run {p : Pattern} (ordered : p.Ordered) {t : Template}
    (h : compile p = .ok t) (env : Environment) :
    failure? (t.run env) = (Pattern.visited env none p).findSome? env.faultOf := by
  rw [run_eq_output ordered h, failure?_map, Pattern.failure?_output fun e _ => e.failure?_output _]

/-! ### What an element needs -/

namespace Expectation

/-- A value is what is expected. -/
def MetBy : Expectation → Value → Prop
  | shown, v => ∀ f, v ≠ .handler f
  | key, v => ∀ f, v ≠ .handler f
  | number, v => ∃ q, v.quantity? = some q
  | moment, v =>
    (∃ m, v = .moment m) ∨
      ∃ s m, v = .text s ∧ Moment.ofRfc3339Chars? (Text.trimChars s.toList) = some m
  | handler, v => ∃ f, v = .handler f

/-- A way to read values gives something of exactly those that are what is expected. -/
def ReadBy {α : Type} (expected : Expectation) (read : Value → Option α) : Prop :=
  ∀ v, read v = none ↔ ¬ expected.MetBy v

theorem readBy_shown : ReadBy shown Value.shown? := by
  intro v
  cases v <;> simp [MetBy, Value.shown?]

theorem readBy_key : ReadBy key Value.shown? := by
  intro v
  cases v <;> simp [MetBy, Value.shown?]

theorem readBy_number : ReadBy number Value.quantity? := by
  intro v
  rw [MetBy, ← Option.isSome_iff_exists, Option.not_isSome_iff_eq_none]

theorem readBy_moment : ReadBy moment Value.readMoment? := by
  intro v
  cases v <;> simp [MetBy, Value.readMoment?, Option.eq_none_iff_forall_ne_some]

theorem readBy_handler : ReadBy handler Value.handler? := by
  intro v
  cases v <;> simp [MetBy, Value.handler?]

end Expectation

/-- The argument that an element reads by its own id, and what it expects of it. A `#`
    has no id. -/
def Element.use? : Element → Option (String × Expectation)
  | .argument id => some (id, .shown)
  | .number id _ _ => some (id, .number)
  | .moment id _ _ => some (id, .moment)
  | .plural id _ _ _ => some (id, .number)
  | .select id _ => some (id, .key)
  | .tag id _ _ => some (id, .handler)
  | .emptyTag id _ => some (id, .handler)
  | .literal _ => none
  | .pound => none

/-- The same inside a given plural, whose argument a `#` reads as a number. -/
def Element.need? (c : Option PluralContext) : Element → Option (String × Expectation)
  | .pound => c.map fun around => (around.id, .number)
  | e => e.use?

/-- Every bound argument is what the elements that read it expect, wherever they stand. -/
def Pattern.Suits (p : Pattern) (arguments : Arguments) : Prop :=
  ∀ π above e id expected v, p.At π above e → e.use? = some (id, expected) →
    arguments id = some v → expected.MetBy v

/-! ### What an element asks the localizer -/

/-- A question put to a localizer. -/
inductive Question where
  /-- For the plural category of a number. -/
  | category (kind : PluralKind) (q : Quantity)
  /-- For the text of a number. -/
  | number (style : NumberStyle) (q : Quantity)
  /-- For the text of the date or the time of a moment. -/
  | moment (kind : TemporalKind) (style : TemporalStyle) (m : Moment)

/-- The error that a localizer has for a question, if it does not answer it. -/
def Localizer.refusal? (l : Localizer) : Question → Option LocaleError
  | .category kind q => failure? (l.category kind q)
  | .number style q => failure? (l.number style q)
  | .moment kind style m => failure? (l.moment kind style m)

/-- The question that follows from an argument read in some way; none from an absent one. -/
def Environment.questionOf {α : Type} (env : Environment) (id : String)
    (read : Value → Option α) (ask : α → Option Question) : Option Question :=
  match env.arguments id with
  | none => none
  | some v => (read v).bind ask

/-- The question that an element by itself puts to the localizer. A plural puts one only
    if its choice hangs on a category. -/
def Element.question? (env : Environment) (c : Option PluralContext) : Element → Option Question
  | .number id offset style =>
    env.questionOf id Value.quantity? fun q => some (.number style (q.minus offset))
  | .moment id kind style =>
    env.questionOf id Value.readMoment? fun m => some (.moment kind style m)
  | .pound => do
    let around ← c
    env.questionOf around.id Value.quantity? fun q =>
      some (.number .plain (q.minus around.offset))
  | .plural id kind offset bs =>
    env.questionOf id Value.quantity? fun q =>
      match PluralChoice.among (bs.map Prod.fst) q.toBinary64 with
      | .settled _ => none
      | .byCategory _ => some (.category kind (q.minus offset))
  | _ => none

/-- The questions that a rendering puts to the localizer, in order. -/
def Pattern.questions (env : Environment) (p : Pattern) : List Question :=
  (Pattern.visited env none p).filterMap fun v => v.2.question? env v.1

/-! ### Faults are misuses and refusals -/

section
variable {env : Environment} {c : Option PluralContext} {e : Element} {x : RenderError}

def Element.Misuses (env : Environment) (c : Option PluralContext) (e : Element)
    (x : RenderError) : Prop :=
  ∃ id expected v, e.need? c = some (id, expected) ∧ env.arguments id = some v ∧
    ¬ expected.MetBy v ∧ x = .invalidArgument id expected

def Element.IsRefused (env : Environment) (c : Option PluralContext) (e : Element)
    (x : RenderError) : Prop :=
  ∃ question refusal, e.question? env c = some question ∧
    env.localizer.refusal? question = some refusal ∧ x = .locale refusal

/-- What goes wrong when an argument is read in some way and a question is put then. -/
def Environment.readingFault? {α : Type} (env : Environment) (id : String)
    (expected : Expectation) (read : Value → Option α) (ask : α → Option Question) :
    Option RenderError :=
  match env.arguments id with
  | none => none
  | some v =>
    match read v with
    | none => some (.invalidArgument id expected)
    | some a => ((ask a).bind env.localizer.refusal?).map .locale

/-- Where an element reads its argument in some way and then puts a question, it misuses
    the argument or is refused if that goes wrong. -/
theorem Environment.readingFault?_eq_some_iff {α : Type} {id : String} {expected : Expectation}
    {read : Value → Option α} {ask : α → Option Question} (hread : expected.ReadBy read)
    (hneed : e.need? c = some (id, expected))
    (hquestion : e.question? env c = env.questionOf id read ask) :
    env.readingFault? id expected read ask = some x ↔ e.Misuses env c x ∨ e.IsRefused env c x := by
  unfold readingFault? Element.Misuses Element.IsRefused
  rw [hneed, hquestion, questionOf]
  -- an argument that cannot be read is misused; one that can be read leads to the question
  cases harg : env.arguments id with
  | none =>
    -- an absent argument is not misused, and no question follows from it
    simp [harg]
  | some v =>
    cases hv : read v with
    | none =>
      have hunmet : ¬ expected.MetBy v := (hread v).mp hv
      simp [harg, hv, hunmet, eq_comm]
    | some a =>
      have hmet : expected.MetBy v := by
        by_contra hunmet
        rw [(hread v).mpr hunmet] at hv
        cases hv
      simp [harg, hv, hmet, Option.bind_eq_some_iff, @eq_comm _ x, and_assoc]

theorem Environment.questionOf_none {α : Type} (id : String) (read : Value → Option α) :
    env.questionOf id read (fun _ => none) = none := by
  unfold questionOf
  cases env.arguments id with
  | none => rfl
  | some v => exact Option.bind_fun_none (read v)

/-- A placeholder fails where its argument cannot be read or its question is refused. -/
theorem Environment.failure?_placeholder {α : Type} {id : String} {expected : Expectation}
    {read : Value → Option α} {text : α → Except LocaleError String} {ask : α → Option Question}
    (hask : ∀ a, failure? (text a) = (ask a).bind env.localizer.refusal?) :
    failure? (env.placeholder id expected read text) = env.readingFault? id expected read ask := by
  unfold placeholder readingFault?
  cases env.arguments id with
  | none => rfl
  | some v =>
    dsimp only
    cases read v with
    | none => rfl
    | some a =>
      dsimp only
      rw [← hask a]
      simp only [reading, bind, Except.bind]
      cases text a <;> rfl

theorem Environment.failure?_handlerOf_eq (t : PlainTag) (plain : PlainTag → Handler) :
    failure? (env.handlerOf plain t) =
      env.readingFault? t.id .handler Value.handler? fun _ => none := by
  unfold handlerOf readingFault?
  cases env.arguments t.id with
  | none => rfl
  | some v => cases v <;> rfl

/-- A plural fails where its argument is no number, or where its choice hangs on a
    category that it is not told. -/
theorem Environment.failure?_pluralKey (id : String) (kind : PluralKind) (offset : Int64)
    (keys : List String) :
    failure? (env.pluralKey id kind offset keys) =
      env.readingFault? id .number Value.quantity? fun q =>
        match PluralChoice.among keys q.toBinary64 with
        | .settled _ => none
        | .byCategory _ => some (.category kind (q.minus offset)) := by
  unfold pluralKey readingFault?
  -- the localizer is asked for a category only where the choice is not settled by the keys
  cases env.arguments id with
  | none => rfl
  | some v =>
    dsimp only
    cases v.quantity? with
    | none => rfl
    | some q =>
      dsimp only
      cases PluralChoice.among keys q.toBinary64 with
      | settled key => rfl
      | byCategory keyOf =>
        simp only [Option.bind_some, Localizer.refusal?]
        cases env.localizer.category kind (q.minus offset) <;> rfl

theorem Environment.failure?_selectKey (id : String) (keys : List String) :
    failure? (env.selectKey id keys) = env.readingFault? id .key Value.shown? fun _ => none := by
  unfold selectKey readingFault?
  cases env.arguments id with
  | none => rfl
  | some v => cases v <;> rfl

theorem Environment.failure?_numberOutput (id : String) (offset : Int64) (style : NumberStyle) :
    failure? (env.numberOutput id offset style) =
      env.readingFault? id .number Value.quantity? fun q =>
        some (.number style (q.minus offset)) :=
  failure?_placeholder fun _ => rfl

open Environment Expectation in
/-- **A fault is a misuse or a refusal.** -/
theorem Element.fault?_eq_some_iff (e : Element) :
    e.fault? env c = some x ↔ e.Misuses env c x ∨ e.IsRefused env c x := by
  -- one case per element: how it reads its argument and what it asks then
  cases e with
  | literal text =>
    simp [fault?, output, failure?, Misuses, IsRefused, need?, use?, question?]
  | argument id =>
    have hfault : failure? (env.placeholder id .shown Value.shown? fun s => .ok (Text.escaped s)) =
        env.readingFault? id .shown Value.shown? fun _ => none :=
      failure?_placeholder fun _ => rfl
    -- an answer in any case: a text is escaped without the localizer
    show failure? (env.placeholder id .shown Value.shown? fun s => .ok (Text.escaped s)) =
      some x ↔ _
    rw [hfault]
    exact readingFault?_eq_some_iff readBy_shown rfl (questionOf_none ..).symm
  | number id offset style =>
    show failure? (env.numberOutput id offset style) = some x ↔ _
    rw [failure?_numberOutput]
    exact readingFault?_eq_some_iff readBy_number rfl rfl
  | moment id kind style =>
    have hfault : failure? (env.placeholder id .moment Value.readMoment?
          (env.localizer.moment kind style)) =
        env.readingFault? id .moment Value.readMoment? fun m => some (.moment kind style m) :=
      failure?_placeholder fun _ => rfl
    show failure? (env.placeholder id .moment Value.readMoment? _) = some x ↔ _
    rw [hfault]
    exact readingFault?_eq_some_iff readBy_moment rfl rfl
  | pound =>
    cases c with
    | none => simp [fault?, output, failure?, Misuses, IsRefused, need?, question?]
    | some around =>
      show failure? (env.numberOutput around.id around.offset .plain) = some x ↔ _
      rw [failure?_numberOutput]
      exact readingFault?_eq_some_iff readBy_number rfl rfl
  | plural id kind offset bs =>
    rw [fault?, failure?_pluralKey]
    exact readingFault?_eq_some_iff readBy_number rfl rfl
  | select id bs =>
    rw [fault?, failure?_selectKey]
    exact readingFault?_eq_some_iff readBy_key rfl (questionOf_none ..).symm
  | tag id attributes es =>
    rw [fault?, failure?_handlerOf_eq]
    exact readingFault?_eq_some_iff readBy_handler rfl (questionOf_none ..).symm
  | emptyTag id attributes =>
    rw [fault?, failure?_handlerOf_eq]
    exact readingFault?_eq_some_iff readBy_handler rfl (questionOf_none ..).symm

end

/-! ### Where misused arguments are used -/

/-- What an element of the pattern needs is needed by an element with its own id: by
    itself, or by the plural around a `#`. -/
theorem Pattern.Holds.exists_use {p : Pattern} {c : Option PluralContext} {e : Element}
    (h : p.Holds none (c, e)) {id : String} {expected : Expectation}
    (hneed : e.need? c = some (id, expected)) :
    ∃ π above a, p.At π above a ∧ a.use? = some (id, expected) := by
  obtain ⟨π, above, hat, hinner⟩ := h
  -- only a `#` has no id of its own, and takes that of the plural around it
  cases e with
  | pound =>
    obtain ⟨around, rfl, hpair⟩ := Option.map_eq_some_iff.mp hneed
    obtain ⟨rfl, rfl⟩ := Prod.mk.inj hpair
    rcases Pattern.exists_plural_of_innermost hinner with hnone | ⟨kind, bs, hmem⟩
    · cases hnone
    · obtain ⟨π', above', hat'⟩ := hat.exists_of_mem_above hmem
      exact ⟨π', above', _, hat', rfl⟩
  | literal | argument | number | moment | plural | select | tag | emptyTag =>
    exact ⟨π, above, _, hat, hneed⟩

/-- A misuse on the way has a culprit: a bound argument that is not what an element with
    its id expects. -/
theorem Pattern.exists_culprit {env : Environment} {p : Pattern}
    {v : Option PluralContext × Element} (hv : v ∈ visited env none p) {x : RenderError}
    (h : v.2.Misuses env v.1 x) :
    ∃ id expected value π above e, x = .invalidArgument id expected ∧
      env.arguments id = some value ∧ p.At π above e ∧ e.use? = some (id, expected) ∧
      ¬ expected.MetBy value := by
  obtain ⟨id, expected, value, hneed, hvalue, hunmet, hx⟩ := h
  have hholds : p.Holds none v := holds_of_mem_visited v hv
  obtain ⟨π, above, e, hat, huse⟩ := hholds.exists_use hneed
  exact ⟨id, expected, value, π, above, e, hx, hvalue, hat, huse, hunmet⟩

/-- Without arguments no element has a question. -/
theorem Element.question?_of_no_arguments (localizer : Localizer) (c : Option PluralContext)
    (e : Element) : e.question? ⟨fun _ => none, localizer⟩ c = none := by
  cases e with
  | pound => cases c <;> rfl
  | literal | argument | number | moment | plural | select | tag | emptyTag => rfl

theorem Pattern.suits_no_arguments (p : Pattern) : p.Suits fun _ => none := by
  intro π above e id expected v _ _ hv
  cases hv

namespace Template

/-- With suitable arguments a rendering succeeds exactly when the localizer answers all
    questions that it puts. -/
theorem run_ok_iff_answered {p : Pattern} (ordered : p.Ordered) {t : Template}
    (h : compile p = .ok t) {env : Environment} (suits : p.Suits env.arguments) :
    (∃ r, t.run env = .ok r) ↔
      ∀ question ∈ p.questions env, env.localizer.refusal? question = none := by
  rw [← failure?_eq_none_iff, failure?_run ordered h, List.findSome?_eq_none_iff]
  constructor
  · -- a refused question is the fault of the element that puts it
    intro hfaultless question hquestion
    obtain ⟨v, hv, hasked⟩ := List.mem_filterMap.mp hquestion
    cases hrefusal : env.localizer.refusal? question with
    | none => rfl
    | some refusal =>
      have hfault : env.faultOf v = some (.locale refusal) :=
        v.2.fault?_eq_some_iff.mpr (Or.inr ⟨question, refusal, hasked, hrefusal, rfl⟩)
      rw [hfaultless v hv] at hfault
      cases hfault
  · intro hanswered v hv
    -- a fault would be a misuse, which does not suit, or a refusal, which was ruled out
    cases hfault : env.faultOf v with
    | none => rfl
    | some x =>
      rcases v.2.fault?_eq_some_iff.mp hfault with hmisuse | hrefused
      · obtain ⟨id, expected, value, π, above, e, _, hvalue, hat, huse, hunmet⟩ :=
          Pattern.exists_culprit hv hmisuse
        exact absurd (suits π above e id expected value hat huse hvalue) hunmet
      · obtain ⟨question, refusal, hasked, hrefusal, _⟩ := hrefused
        have hmem : question ∈ p.questions env := List.mem_filterMap.mpr ⟨v, hv, hasked⟩
        rw [hanswered question hmem] at hrefusal
        cases hrefusal

/-- **Errors have culprits.** Arguments that suit every element of the pattern never fail
    a rendering, whichever are absent: it succeeds exactly when the localizer refuses none
    of the questions that it is asked. Without arguments no question is asked, so any
    localizer will do. And an error that names an argument names a bound one, which is not
    what some element of the pattern with its id expects. -/
theorem errors_have_culprits {p : Pattern} (ordered : p.Ordered) {t : Template}
    (h : compile p = .ok t) (env : Environment) :
    (p.Suits env.arguments →
      ((∃ r, t.run env = .ok r) ↔
        ∀ question ∈ p.questions env, env.localizer.refusal? question = none)) ∧
    (∀ localizer, ∃ r, t.run ⟨fun _ => none, localizer⟩ = .ok r) ∧
    ∀ id expected, t.run env = .error (.invalidArgument id expected) →
      ∃ v π above e, env.arguments id = some v ∧ p.At π above e ∧
        e.use? = some (id, expected) ∧ ¬ expected.MetBy v := by
  refine ⟨run_ok_iff_answered ordered h, fun localizer => ?_, fun id expected herror => ?_⟩
  · -- without arguments nothing is read, and so nothing is asked
    refine (run_ok_iff_answered ordered h p.suits_no_arguments).mpr fun question hquestion => ?_
    obtain ⟨v, _, hasked⟩ := List.mem_filterMap.mp hquestion
    rw [Element.question?_of_no_arguments] at hasked
    cases hasked
  · have hfirst : (Pattern.visited env none p).findSome? env.faultOf =
        some (.invalidArgument id expected) := by
      rw [← failure?_run ordered h]
      exact failure?_eq_some_iff.mpr herror
    obtain ⟨v, hv, hfault⟩ := List.exists_of_findSome?_eq_some hfirst
    rcases v.2.fault?_eq_some_iff.mp hfault with hmisuse | hrefused
    · obtain ⟨id', expected', value, π, above, e, hx, hvalue, hat, huse, hunmet⟩ :=
        Pattern.exists_culprit hv hmisuse
      obtain ⟨rfl, rfl⟩ := RenderError.invalidArgument.inj hx
      exact ⟨value, π, above, e, hvalue, hat, huse, hunmet⟩
    · -- what the localizer refuses is reported as its own error
      obtain ⟨_, _, _, _, hx⟩ := hrefused
      cases hx

/-- The first call gives no moment, so the localizer is never asked for one, which it would
    refuse. The second gives a text that is no number to a plural with a `#` inside. -/
theorem faults_of_invitation :
    let p : Pattern :=
      [.argument "name",
        .plural "n" .cardinal 1 [("one", [.tag "b" "" [.pound]]), ("other", [.pound])],
        .select "g" [("other", [.moment "day" .date .short])]]
    let localizer : Localizer :=
      ⟨"und", fun _ _ => .ok .one, fun _ _ => .ok "2",
        fun _ _ _ => .error (.unavailable "und" "datetime" "refused")⟩
    let stars : Handler := Handler.wrap fun content => .parts [.text "*", content, .text "*"]
    let env : Environment :=
      ⟨Arguments.ofList [("name", .text "Ann"), ("n", .integer 3), ("b", .handler stars)],
        localizer⟩
    let env' : Environment := ⟨Arguments.ofList [("n", .text "many")], localizer⟩
    p.Ordered ∧ p.Suits env.arguments ∧
      (∀ question ∈ p.questions env, env.localizer.refusal? question = none) ∧
      ∃ t, compile p = .ok t ∧ (∃ r, t.run env = .ok r) ∧
        t.run env' = .error (.invalidArgument "n" .number) ∧
        ∃ v π above e, env'.arguments "n" = some v ∧ p.At π above e ∧
          e.use? = some ("n", .number) ∧ ¬ Expectation.number.MetBy v := by
  intro p localizer stars env env'
  have ordered : p.Ordered := by
    have hkeys : Table.Ascending
        ([("one", [.tag "b" "" [.pound]]), ("other", [.pound])] : Branches) := by
      unfold Table.Ascending
      decide
    simp [p, Pattern.orderedParts_iff, Element.branches, Element.children, hkeys]
    exact List.pairwise_singleton _ _
  have hused : p.Everywhere fun e => ∀ id expected, e.use? = some (id, expected) →
      (id, expected) ∈ [("name", Expectation.shown), ("n", .number), ("b", .handler),
        ("g", .key), ("day", .moment)] := by
    simp [p, Pattern.throughout_iff, Element.use?, Element.branches, Element.children]
  have suits : p.Suits env.arguments := by
    intro π above e id expected v hat huse hv
    have hlisted := hused π above e hat id expected huse
    simp at hlisted
    rcases hlisted with ⟨rfl, rfl⟩ | ⟨rfl, rfl⟩ | ⟨rfl, rfl⟩ | ⟨rfl, rfl⟩ | ⟨rfl, rfl⟩
    · obtain rfl : .text "Ann" = v := Option.some.inj hv
      exact fun f hf => by cases hf
    · obtain rfl : .integer 3 = v := Option.some.inj hv
      exact ⟨.integer 3, rfl⟩
    · obtain rfl : .handler stars = v := Option.some.inj hv
      exact ⟨stars, rfl⟩
    · cases hv
    · cases hv
  have hanswered : ∀ question ∈ p.questions env, env.localizer.refusal? question = none := by
    decide +kernel
  have hrun : ∃ t, compile p = .ok t ∧ t.run env' = .error (.invalidArgument "n" .number) :=
    ⟨_, rfl, rfl⟩
  obtain ⟨t, ht, herror⟩ := hrun
  obtain ⟨hsuited, _, _⟩ := errors_have_culprits ordered ht env
  obtain ⟨_, _, hculprit⟩ := errors_have_culprits ordered ht env'
  exact ⟨ordered, suits, hanswered, t, ht, (hsuited suits).mpr hanswered, herror,
    hculprit "n" .number herror⟩

end Template

end Phrasebook
