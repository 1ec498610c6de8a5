import Phrasebook.Template.Render

/-! # Outcomes of renderings

    What a rendering gives from a given state: a fragment or an error, together
    with the state that it has reached. The equations here say so for each step
    that a rendering is made of, and turn the walks over parts and branches into
    the usual operations on lists.
-/

namespace Phrasebook

namespace RenderM

variable {α β : Type}

def outcome (x : RenderM α) (s : CallState) : Except RenderError α × CallState :=
  x.run.run s

/-! ### Steps -/

@[simp] theorem outcome_pure (a : α) (s : CallState) :
    outcome (pure a) s = (.ok a, s) := rfl

theorem outcome_bind (x : RenderM α) (f : α → RenderM β) (s : CallState) :
    outcome (x >>= f) s =
      match outcome x s with
      | (.ok a, s') => outcome (f a) s'
      | (.error e, s') => (.error e, s') := by
  unfold outcome
  rw [ExceptT.run_bind, StateT.run_bind]
  rcases x.run.run s with ⟨_ | a, s'⟩ <;> rfl

@[simp] theorem outcome_ofLocale_ok (a : α) (s : CallState) :
    outcome (ofLocale (.ok a)) s = (.ok a, s) := rfl

@[simp] theorem outcome_require_some (id : String) (expected : Expectation) (a : α)
    (s : CallState) : outcome (require id expected (some a)) s = (.ok a, s) := rfl

@[simp] theorem outcome_require_none (id : String) (expected : Expectation) (s : CallState) :
    outcome (require id expected (none : Option α)) s =
      (.error (.invalidArgument id expected), s) := rfl

/-- Looking up an argument only records it where it is absent. -/
theorem outcome_argument? (env : Environment) (id : String) (s : CallState) :
    outcome (argument? env id) s =
      match env.arguments id with
      | some v => (.ok (some v), s)
      | none => (.ok none, s.recordAbsence id) := by
  unfold argument?
  cases env.arguments id <;> rfl

/-- The handler of a tag changes the state only where the plain tag is the first of its name. -/
theorem outcome_tagHandler (env : Environment) (t : PlainTag) (s : CallState) :
    outcome (tagHandler env t) s =
      match env.arguments t.id with
      | some v => outcome (require t.id .handler v.handler?) s
      | none => (.ok (s.plainTag t).1.render, (s.plainTag t).2) := by
  unfold tagHandler
  cases env.arguments t.id <;> rfl

end RenderM

namespace Template

open RenderM

/-! ### Walks over parts and branches -/

section
variable {m : Type → Type} [Monad m] [MonadLiftT RenderM m]
  (call : PlainTag → Handler → Option Fragment → m Fragment)

theorem renderAllBy_eq [LawfulMonad m] (env : Environment) (ts : List Template) :
    renderAllBy call env ts = ts.mapM (renderBy call env) := by
  induction ts with
  | nil => rw [renderAllBy, List.mapM_nil]
  | cons t ts ih => rw [renderAllBy, List.mapM_cons, ih]

theorem renderExactBy_eq (env : Environment) (x : Binary64) (bs : List (Binary64 × Template)) :
    renderExactBy call env x bs =
      (bs.find? fun b => b.1.sameValue x).map fun b => b.2.renderBy call env := by
  induction bs with
  | nil => rfl
  | cons b bs ih =>
    obtain ⟨y, t⟩ := b
    rw [renderExactBy, List.find?_cons, ih]
    cases y.sameValue x <;> rfl

theorem renderKeyedBy_eq (env : Environment) (key : String) (bs : List (String × Template)) :
    renderKeyedBy call env key bs = (bs.lookup key).map (renderBy call env) := by
  induction bs with
  | nil => rfl
  | cons b bs ih =>
    obtain ⟨k, t⟩ := b
    rw [renderKeyedBy, Table.lookup_entry, ih]
    by_cases h : k = key
    · rw [if_pos h, if_pos h.symm]
      rfl
    · rw [if_neg h, if_neg (Ne.symm h)]

end

/-! ### What each template renders to -/

section
variable (env : Environment) (id : String)

theorem render_literal (text : String) : (literal text).render env = pure (.text text) := rfl

theorem render_number (offset : Int64) (style : NumberStyle) :
    (number id offset style).render env = renderNumber env id offset style := rfl

theorem render_moment (kind : TemporalKind) (style : TemporalStyle) :
    (moment id kind style).render env = renderMoment env id kind style := rfl

theorem render_sequence (ts : List Template) :
    (sequence ts).render env = (do return .concat (← ts.mapM (render env))) := by
  rw [render, renderBy, renderAllBy_eq]
  rfl

theorem render_plural (kind : PluralKind) (offset : Int64) (exact : List (Binary64 × Template))
    (keyed : List (String × Template)) (other : Template) :
    (plural id kind offset exact keyed other).render env = (do
      match ← argument? env id with
      | none => other.render env
      | some v =>
        let q ← require id .number v.quantity?
        ((exact.find? fun b => b.1.sameValue q.toBinary64).map fun b => b.2.render env).getD <|
          if keyed.isEmpty then other.render env
          else do
            let c ← ofLocale (env.localizer.category kind (q.minus offset))
            ((keyed.lookup c.keyword).map (render env)).getD (other.render env)) := by
  simp only [render, renderBy, renderExactBy_eq, renderKeyedBy_eq]
  rfl

theorem render_select (branches : List (String × Template)) (other : Template) :
    (select id branches other).render env = (do
      match ← argument? env id with
      | none => other.render env
      | some v =>
        let key ← require id .key v.shown?
        ((branches.lookup key).map (render env)).getD (other.render env)) := by
  simp only [render, renderBy, renderKeyedBy_eq]
  rfl

theorem render_tag (attributes : String) (children : Template) :
    (tag id attributes children).render env = (do
      let handler ← tagHandler env ⟨id, attributes, .paired⟩
      return handler (some (← children.render env))) := rfl

theorem render_emptyTag (attributes : String) :
    (emptyTag id attributes).render env = (do
      let handler ← tagHandler env ⟨id, attributes, .empty⟩
      return handler none) := rfl

end

theorem render_number_of_ok {env : Environment} {id : String} {v : Value} {q : Quantity}
    (h : env.arguments id = some v) (hquantity : v.quantity? = some q) {offset : Int64}
    {style : NumberStyle} {s : String}
    (hnumber : env.localizer.number style (q.minus offset) = .ok s) :
    (number id offset style).render env = pure (.text s) := by
  simp only [render_number, renderNumber, RenderM.argument?, h, pure_bind, hquantity,
    RenderM.require, hnumber, RenderM.ofLocale]

/-- A run gives what the outcome from the start gives, less the plain tags. -/
theorem run_eq (t : Template) (env : Environment) :
    t.run env =
      match (t.render env).outcome .start with
      | (.ok content, s) => .ok ⟨content, s.absences⟩
      | (.error e, _) => .error e := rfl

end Template

/-- What a pattern shows: its text, or the error of the rendering; none for a pattern that
    does not compile. -/
def Pattern.shown? (p : Pattern) (env : Environment) : Option (Except RenderError String) :=
  (Template.compile p).toOption.map fun t => (t.run env).map fun r => r.content.flatten

end Phrasebook
