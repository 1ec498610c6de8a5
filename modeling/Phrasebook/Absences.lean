/-! # Absences

    The ids of arguments that a rendering asked for and did not find, in the
    order in which it asked, repeats kept.
-/

namespace Phrasebook

/-- Ids that were asked for and absent. -/
structure Absences where
  /-- The ids in the order in which they were asked for. -/
  ids : List String
  deriving DecidableEq, Repr

namespace Absences

def empty : Absences := ⟨[]⟩

def record (a : Absences) (id : String) : Absences :=
  ⟨a.ids ++ [id]⟩

def isEmpty (a : Absences) : Bool :=
  a.ids.isEmpty

/-- How often an absent id was asked for. -/
def size (a : Absences) : Nat :=
  a.ids.length

/-- Each id once, in order of its first occurrence. -/
def distinct (a : Absences) : List String :=
  a.ids.eraseDups

@[simp] theorem ids_record (a : Absences) (id : String) : (a.record id).ids = a.ids ++ [id] := rfl

end Absences

end Phrasebook
