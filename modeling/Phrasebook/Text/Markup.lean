/-! # Text inside markup

    The five characters that mean something in HTML are replaced by entities, so
    a text that is shown inside markup stays text.
-/

namespace Phrasebook.Text

/-- How one character is shown inside markup. -/
def escapedChar (c : Char) : List Char :=
  match c with
  | '<' => ['&', 'l', 't', ';']
  | '>' => ['&', 'g', 't', ';']
  | '&' => ['&', 'a', 'm', 'p', ';']
  | '\'' => ['&', '#', '3', '9', ';']
  | '\x22' => ['&', 'q', 'u', 'o', 't', ';']
  | c => [c]

def escaped (s : String) : String :=
  String.ofList (s.toList.flatMap escapedChar)

@[simp] theorem toList_escaped (s : String) :
    (escaped s).toList = s.toList.flatMap escapedChar := by
  simp [escaped]

end Phrasebook.Text
