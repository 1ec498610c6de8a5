import Phrasebook.Locale.Localizer
import Phrasebook.Template.CallState
import Phrasebook.Template.Compile
import Phrasebook.Text.Markup
import Phrasebook.Value

/-! # Rendering templates

    A template is rendered against arguments and a localizer. An absent argument
    never fails a rendering: it shows nothing, sends a choice to its `other`
    branch, and is recorded. An argument of the wrong kind does, and so does a
    localizer that gives no answer. What was recorded before a failure is kept.
-/

namespace Phrasebook

/-- What a place in a pattern needs its argument to be. -/
inductive Expectation where
  /-- Shown as text. -/
  | shown
  /-- Read as a number. -/
  | number
  /-- Read as a moment. -/
  | moment
  /-- Compared with the keys of a choice. -/
  | key
  /-- Called for a tag. -/
  | handler
  deriving DecidableEq, Repr

def Expectation.message : Expectation → String
  | shown => "a text, number or date value"
  | number => "a number"
  | moment => "a date-time or RFC 3339 string"
  | key => "a text or number value"
  | handler => "a tag handler"

/-- Why a rendering fails. -/
inductive RenderError where
  /-- An argument is not what a place in the pattern needs. -/
  | invalidArgument (id : String) (expected : Expectation)
  /-- The localizer gives no answer. -/
  | locale (e : LocaleError)
  deriving DecidableEq, Repr

def RenderError.message : RenderError → String
  | invalidArgument id expected => "argument '" ++ id ++ "' must be " ++ expected.message
  | locale e => e.message

/-- A computation in the course of a rendering: it may fail, and the state it
    has reached is there in either case. -/
abbrev RenderM := ExceptT RenderError (StateM CallState)

/-- What a template is rendered against. -/
structure Environment where
  /-- The arguments of the call. -/
  arguments : Arguments
  /-- The localizer of the message. -/
  localizer : Localizer

namespace RenderM

/-- Take an answer of a localizer. -/
def ofLocale {α : Type} : Except LocaleError α → RenderM α
  | .ok a => pure a
  | .error e => throw (.locale e)

/-- Take a reading of an argument, which fails if there is none. -/
def require {α : Type} (id : String) (expected : Expectation) : Option α → RenderM α
  | some a => pure a
  | none => throw (.invalidArgument id expected)

/-- Look an argument up and record it if it is absent. -/
def argument? (env : Environment) (id : String) : RenderM (Option Value) :=
  match env.arguments id with
  | some v => pure (some v)
  | none => do
    modify (·.recordAbsence id)
    return none

/-- The handler of a tag: the one bound to its name, or else the plain tag of that name. -/
def tagHandler (env : Environment) (t : PlainTag) : RenderM Handler :=
  match env.arguments t.id with
  | some v => require t.id .handler v.handler?
  | none => do
    let first ← modifyGet (·.plainTag t)
    return first.render

end RenderM

namespace Template

open RenderM

/-- An argument shown as text, escaped for markup. -/
def renderArgument (env : Environment) (id : String) : RenderM Fragment := do
  match ← argument? env id with
  | none => return .empty
  | some v => return .text (Text.escaped (← require id .shown v.shown?))

def renderNumber (env : Environment) (id : String) (offset : Int64) (style : NumberStyle) :
    RenderM Fragment := do
  match ← argument? env id with
  | none => return .empty
  | some v =>
    let q ← require id .number v.quantity?
    return .text (← ofLocale (env.localizer.number style (q.minus offset)))

def renderMoment (env : Environment) (id : String) (kind : TemporalKind) (style : TemporalStyle) :
    RenderM Fragment := do
  match ← argument? env id with
  | none => return .empty
  | some v =>
    let m ← require id .moment v.readMoment?
    return .text (← ofLocale (env.localizer.moment kind style m))

section
variable {m : Type → Type} [Monad m] [MonadLiftT RenderM m]
  (call : PlainTag → Handler → Option Fragment → m Fragment)

mutual

/-- Render a template by computations of some kind. How a handler is called for a tag is
    left open: it is given the tag, the handler and what the tag holds. -/
def renderBy (env : Environment) : Template → m Fragment
  | literal text => pure (.text text)
  | sequence ts => do
    let ps ← renderAllBy env ts
    return .concat ps
  | argument id => renderArgument env id
  | number id offset style => renderNumber env id offset style
  | moment id kind style => renderMoment env id kind style
  | plural id kind offset exact keyed other => do
    match ← argument? env id with
    | none => renderBy env other
    | some v =>
      let q ← require id .number v.quantity?
      -- a branch for the number itself comes before any category
      (renderExactBy env q.toBinary64 exact).getD <|
        -- the localizer is not asked when no branch could use its answer
        if keyed.isEmpty then renderBy env other
        else do
          let c ← ofLocale (env.localizer.category kind (q.minus offset))
          (renderKeyedBy env c.keyword keyed).getD (renderBy env other)
  | select id branches other => do
    match ← argument? env id with
    | none => renderBy env other
    | some v =>
      let key ← require id .key v.shown?
      (renderKeyedBy env key branches).getD (renderBy env other)
  | tag id attributes children => do
    let handler ← tagHandler env ⟨id, attributes, .paired⟩
    -- what is inside the tag is rendered before the handler is called
    let content ← renderBy env children
    call ⟨id, attributes, .paired⟩ handler (some content)
  | emptyTag id attributes => do
    let handler ← tagHandler env ⟨id, attributes, .empty⟩
    call ⟨id, attributes, .empty⟩ handler none

def renderAllBy (env : Environment) : List Template → m (List Fragment)
  | [] => pure []
  | t :: ts => do
    let p ← renderBy env t
    let ps ← renderAllBy env ts
    return p :: ps

/-- The rendering of the first branch for a given value, if there is one. -/
def renderExactBy (env : Environment) (x : Binary64) :
    List (Binary64 × Template) → Option (m Fragment)
  | [] => none
  | (y, t) :: bs => if y.sameValue x then some (renderBy env t) else renderExactBy env x bs

/-- The rendering of the first branch under a given key, if there is one. -/
def renderKeyedBy (env : Environment) (key : String) :
    List (String × Template) → Option (m Fragment)
  | [] => none
  | (k, t) :: bs => if k = key then some (renderBy env t) else renderKeyedBy env key bs

end

end

/-- Render a template: a handler is called for what it returns. -/
def render (env : Environment) (t : Template) : RenderM Fragment :=
  t.renderBy (fun _ handler content => pure (handler content)) env

end Template

structure Rendering where
  /-- The output. -/
  content : Fragment
  /-- The arguments that were asked for and absent. -/
  absences : Absences

/-- Render a template from the start. -/
def Template.run (t : Template) (env : Environment) : Except RenderError Rendering :=
  match (t.render env).run.run .start with
  | (.ok content, s) => .ok ⟨content, s.absences⟩
  | (.error e, _) => .error e

end Phrasebook
