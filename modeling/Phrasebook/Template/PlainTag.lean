import Phrasebook.Fragment

/-! # Plain tags

    A tag that no handler is bound to is rendered back to markup: its opening
    with the attributes, the rendered children, and its closing.
-/

namespace Phrasebook

inductive TagShape where
  | paired
  | empty
  deriving DecidableEq, Repr

/-- A tag to be rendered as the markup that it is. -/
structure PlainTag where
  /-- The name of the tag. -/
  id : String
  /-- The attributes as one text. -/
  attributes : String
  /-- Around children or closing itself. -/
  shape : TagShape
  deriving DecidableEq, Repr

namespace PlainTag

/-- The opening of a tag without its end: the name, and the attributes behind a space. -/
def opening (t : PlainTag) : String :=
  if t.attributes = "" then "<" ++ t.id else "<" ++ t.id ++ " " ++ t.attributes

/-- The markup of a tag around the given content. A tag that closes itself shows no content. -/
def render (t : PlainTag) (content : Option Fragment) : Fragment :=
  match t.shape with
  | .empty => .text (t.opening ++ " />")
  | .paired =>
    .concat [.text (t.opening ++ ">"), content.getD .empty, .text ("</" ++ t.id ++ ">")]

end PlainTag

end Phrasebook
