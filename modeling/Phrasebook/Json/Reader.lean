import Phrasebook.Json.Number

/-! # Reading JSON

    The grammar of JSON over a list of characters. The reader goes from left to
    right and reports the first fault it meets: that the text ended too early, or
    that a character is out of place. Arrays and objects nest at most 127 deep.
    Of two members with one key the later one stays.
-/

namespace Phrasebook.Json

/-! ### Blanks, words and strings -/

/-- Drop spaces, tabs and line ends. -/
def skipBlank (cs : List Char) : List Char :=
  cs.dropWhile fun c => c == ' ' || c == '\t' || c == '\n' || c == '\r'

/-- Read one of the words `null`, `true` and `false`. -/
def word (value : Json) : List Char → List Char → Except Fault (Json × List Char)
  | [], cs => .ok (value, cs)
  | _ :: _, [] => .error .ended
  | x :: xs, c :: cs => if x = c then word value xs cs else .error .malformed

/-- The value of a hexadecimal digit of either case. -/
def hexDigit? (c : Char) : Option Nat :=
  if c.isDigit then some (c.toNat - '0'.toNat)
  else if 'a' ≤ c ∧ c ≤ 'f' then some (c.toNat - 'a'.toNat + 10)
  else if 'A' ≤ c ∧ c ≤ 'F' then some (c.toNat - 'A'.toNat + 10)
  else none

/-- Read four hexadecimal digits. The text has ended if fewer than four bytes
    of it are left, whatever they are. -/
def hexUnit (cs : List Char) : Except Fault (Nat × List Char) :=
  if (String.ofList (cs.take 4)).utf8ByteSize < 4 then .error .ended
  else
    match cs with
    | a :: b :: c :: d :: rest =>
      match hexDigit? a, hexDigit? b, hexDigit? c, hexDigit? d with
      | some a, some b, some c, some d => .ok (((a * 16 + b) * 16 + c) * 16 + d, rest)
      | _, _, _, _ => .error .malformed
    | _ => .error .malformed

/-- Read the rest of a character given by number: one unit, or a high unit
    followed by the escape of a low one. A low unit alone is no character. -/
def unitEscape (cs : List Char) : Except Fault (Char × List Char) := do
  let (n, rest) ← hexUnit cs
  if 0xDC00 ≤ n ∧ n ≤ 0xDFFF then throw .malformed
  else if 0xD800 ≤ n ∧ n ≤ 0xDBFF then
    match rest with
    | [] => throw .ended
    | ['\\'] => throw .ended
    | '\\' :: 'u' :: more =>
      let (m, rest) ← hexUnit more
      -- the two units hold ten bits each of the number above 0x10000
      if 0xDC00 ≤ m ∧ m ≤ 0xDFFF then
        return (Char.ofNat (0x10000 + (n - 0xD800) * 0x400 + (m - 0xDC00)), rest)
      else throw .malformed
    | _ => throw .malformed
  else return (Char.ofNat n, rest)

/-- Read the rest of an escape behind its backslash. -/
def escape : List Char → Except Fault (Char × List Char)
  | [] => .error .ended
  | '\x22' :: cs => .ok ('\x22', cs)
  | '\\' :: cs => .ok ('\\', cs)
  | '/' :: cs => .ok ('/', cs)
  | 'b' :: cs => .ok ('\x08', cs)
  | 'f' :: cs => .ok ('\x0c', cs)
  | 'n' :: cs => .ok ('\n', cs)
  | 'r' :: cs => .ok ('\r', cs)
  | 't' :: cs => .ok ('\t', cs)
  | 'u' :: cs => unitEscape cs
  | _ => .error .malformed

/-- Read the characters of a string up to its closing quote. Every character
    read shortens the text, so its length is fuel enough. -/
def stringBody : Nat → List Char → List Char → Except Fault (String × List Char)
  | 0, _, _ => .error .ended
  | fuel + 1, done, cs =>
    match cs with
    | [] => .error .ended
    | '\x22' :: rest => .ok (String.ofList done.reverse, rest)
    | '\\' :: rest => do
      let (c, rest) ← escape rest
      stringBody fuel (c :: done) rest
    -- control characters have to be written as escapes
    | c :: rest => if c.toNat < 0x20 then .error .malformed else stringBody fuel (c :: done) rest

/-- Read a string behind its opening quote. -/
def string (cs : List Char) : Except Fault (String × List Char) :=
  stringBody (cs.length + 1) [] cs

/-! ### Values -/

mutual

/-- Read a value. `depth` is how many brackets may still be opened. Every call
    is met by a character of its own, so the length of the text is fuel enough. -/
def value (fuel depth : Nat) (cs : List Char) : Except Fault (Json × List Char) :=
  match fuel with
  | 0 => .error .malformed
  | fuel + 1 =>
    match skipBlank cs with
    | [] => .error .ended
    | 'n' :: rest => word .null ['u', 'l', 'l'] rest
    | 't' :: rest => word (.boolean true) ['r', 'u', 'e'] rest
    | 'f' :: rest => word (.boolean false) ['a', 'l', 's', 'e'] rest
    | '\x22' :: rest => (string rest).map fun (s, rest) => (.text s, rest)
    -- an empty array is told apart here, so that `items` need not allow for one
    | '[' :: rest =>
      if depth = 0 then .error .malformed
      else
        match skipBlank rest with
        | ']' :: rest => .ok (.array [], rest)
        | rest => (items fuel (depth - 1) rest).map fun (vs, rest) => (.array vs, rest)
    | '\x7b' :: rest =>
      if depth = 0 then .error .malformed
      else
        match skipBlank rest with
        | '\x7d' :: rest => .ok (.object [], rest)
        | rest =>
          -- the later of two members with one key stays, at the place of the key
          (members fuel (depth - 1) rest).map fun (ms, rest) => (.object (Table.ofList ms), rest)
    | rest => number rest

/-- Read the items of an array that has at least one. -/
def items (fuel depth : Nat) (cs : List Char) : Except Fault (List Json × List Char) :=
  match fuel with
  | 0 => .error .malformed
  | fuel + 1 => do
    let (v, rest) ← value fuel depth cs
    match skipBlank rest with
    | [] => throw .ended
    | ']' :: rest => return ([v], rest)
    | ',' :: rest =>
      let (vs, rest) ← items fuel depth rest
      return (v :: vs, rest)
    | _ => throw .malformed

/-- Read the members of an object that has at least one. -/
def members (fuel depth : Nat) (cs : List Char) :
    Except Fault (List (String × Json) × List Char) :=
  match fuel with
  | 0 => .error .malformed
  | fuel + 1 =>
    match skipBlank cs with
    | [] => .error .ended
    | '\x22' :: rest => do
      let (key, rest) ← string rest
      match skipBlank rest with
      | [] => throw .ended
      | ':' :: rest =>
        let (v, rest) ← value fuel depth rest
        match skipBlank rest with
        | [] => throw .ended
        | '\x7d' :: rest => return ([(key, v)], rest)
        | ',' :: rest =>
          let (ms, rest) ← members fuel depth rest
          return ((key, v) :: ms, rest)
        | _ => throw .malformed
      | _ => throw .malformed
    | _ => .error .malformed

end

/-- How many brackets a text may open inside one another. -/
def maxDepth : Nat := 127

/-- Read a text that is one JSON value between blanks. -/
def parse (s : String) : Except Fault Json := do
  let cs := s.toList
  -- a bracket costs two calls, its own and one for what it holds
  let (v, rest) ← value (2 * cs.length + 1) maxDepth cs
  if (skipBlank rest).isEmpty then return v else throw .malformed

end Phrasebook.Json
