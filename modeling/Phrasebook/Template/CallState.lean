import Phrasebook.Absences
import Phrasebook.Template.PlainTag

/-! # The state of one rendering

    While a template is rendered, the absences are collected and the plain tags
    are remembered: the first tag of a name that has no handler decides how every
    tag of that name is rendered in the same call. Both only grow.
-/

namespace Phrasebook

/-- What a rendering has met so far. -/
structure CallState where
  /-- The arguments that were asked for and absent. -/
  absences : Absences
  /-- The plain tag of each name met without a handler, in the order met. -/
  plainTags : List (String × PlainTag)
  deriving DecidableEq, Repr

namespace CallState

def start : CallState := ⟨.empty, []⟩

def recordAbsence (s : CallState) (id : String) : CallState :=
  { s with absences := s.absences.record id }

/-- The plain tag for a name: the one remembered, or else the given one, which
    is remembered from now on. -/
def plainTag (s : CallState) (t : PlainTag) : PlainTag × CallState :=
  match s.plainTags.lookup t.id with
  | some first => (first, s)
  | none => (t, { s with plainTags := s.plainTags ++ [(t.id, t)] })

end CallState

end Phrasebook
