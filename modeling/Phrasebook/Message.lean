import Phrasebook.Locale.Standard
import Phrasebook.Pattern.Decode
import Phrasebook.Template.Render

/-! # Messages

    A message is a pattern compiled for a locale. It can be formatted any number
    of times. A strict message refuses to be formatted without one of the
    arguments that it asks for.
-/

namespace Phrasebook

/-- A pattern compiled for a locale. -/
structure Message where
  template : Template
  localizer : Localizer
  /-- The tag that the message was built for, as it was given. -/
  locale : String
  /-- Absent arguments fail the formatting. -/
  strict : Bool

/-- Why a message cannot be built. -/
inductive BuildError where
  /-- The pattern cannot be decoded. -/
  | decode (e : DecodeError)
  /-- The pattern is not well formed. -/
  | pattern (e : PatternError)
  /-- The locale is not known. -/
  | locale (e : LocaleError)

def BuildError.message : BuildError → String
  | decode e => e.message
  | pattern e => e.message
  | locale e => e.message

/-- Why a message cannot be formatted. -/
inductive FormatError where
  /-- Arguments of a strict message are absent. -/
  | missingArguments (ids : List String)
  /-- The rendering fails. -/
  | render (e : RenderError)
  deriving DecidableEq, Repr

def FormatError.message : FormatError → String
  | missingArguments ids => "missing parameters: " ++ String.intercalate ", " ids
  | render e => e.message

/-- Why a pattern cannot be formatted in one step. -/
inductive MessageError where
  | build (e : BuildError)
  | format (e : FormatError)

def MessageError.message : MessageError → String
  | build e => e.message
  | format e => e.message

namespace Message

/-- A message with a localizer of its own; the tag is only remembered. -/
def withLocalizer (localizer : Localizer) (locale : String) (strict : Bool) (p : Pattern) :
    Except BuildError Message :=
  match Template.compile p with
  | .ok template => .ok ⟨template, localizer, locale, strict⟩
  | .error e => .error (.pattern e)

/-- A message with the standard localizer of a tag, which is checked before the pattern. -/
def build (locale : String) (currency : Option String) (strict : Bool) (p : Pattern) :
    Except BuildError Message :=
  match Locale.ofTag locale with
  | .error e => .error (.locale e)
  | .ok l =>
    let l := (currency.map l.withCurrency).getD l
    withLocalizer l.localizer locale strict p

/-- A message from the JSON text of its pattern, which is read before the tag is checked. -/
def ofJson (json locale : String) : Except BuildError Message :=
  match Pattern.parse json with
  | .error e => .error (.decode e)
  | .ok p => build locale none false p

/-- The output of a message, with the structure that handlers gave it. -/
def formatFragment (m : Message) (args : Arguments) : Except FormatError Fragment :=
  match m.template.run ⟨args, m.localizer⟩ with
  | .error e => .error (.render e)
  | .ok r =>
    if m.strict && !r.absences.isEmpty then .error (.missingArguments r.absences.distinct)
    else .ok r.content

def format (m : Message) (args : Arguments) : Except FormatError String :=
  (m.formatFragment args).map Fragment.flatten

end Message

/-- Build a message with the standard localizer and format it once. -/
def formatPattern (p : Pattern) (locale : String) (args : Arguments) :
    Except MessageError String :=
  match Message.build locale none false p with
  | .error e => .error (.build e)
  | .ok m =>
    match m.format args with
    | .error e => .error (.format e)
    | .ok s => .ok s

end Phrasebook
