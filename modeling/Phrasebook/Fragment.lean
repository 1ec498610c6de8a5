/-! # Fragments

    What a message renders to: text, or parts side by side where a tag handler
    has returned structure. Flattening forgets the structure and joins the texts.
-/

namespace Phrasebook

/-- Rendered output. -/
inductive Fragment where
  /-- Plain text. -/
  | text (s : String)
  /-- Parts side by side. -/
  | parts (ps : List Fragment)
  deriving Inhabited

namespace Fragment

def empty : Fragment := .text ""

/-- The text of a fragment without structure. -/
def text? : Fragment → Option String
  | text s => some s
  | parts _ => none

mutual

/-- The text of a fragment, its parts joined in order. -/
def flatten : Fragment → String
  | text s => s
  | parts ps => flattenAll ps

def flattenAll : List Fragment → String
  | [] => ""
  | p :: ps => p.flatten ++ flattenAll ps

end

mutual

/-- Empty text, or parts that are all empty. -/
def isEmpty : Fragment → Bool
  | text s => s.isEmpty
  | parts ps => allEmpty ps

def allEmpty : List Fragment → Bool
  | [] => true
  | p :: ps => p.isEmpty && allEmpty ps

end

def texts? : List Fragment → Option (List String)
  | [] => some []
  | text s :: ps => (texts? ps).map (s :: ·)
  | parts _ :: _ => none

/-- Fragments joined in order: one text if all are texts, else parts side by side. -/
def concat (ps : List Fragment) : Fragment :=
  match texts? ps with
  | some ss => .text (String.join ss)
  | none => .parts ps

end Fragment

end Phrasebook
