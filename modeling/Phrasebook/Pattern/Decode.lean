import Phrasebook.Json.Description
import Phrasebook.Json.Reader
import Phrasebook.Pattern.Element

/-! # Patterns as JSON

    A pattern is written as an array. A string in it is literal text; an array in
    it is an argument element: an id, then a type, then what the type asks for.
    `["n", "plural", 0, ...]` ends in an object of branches, each a pattern again.
    All items of an array are checked to be strings or arrays before any of them
    is decoded.
-/

namespace Phrasebook

/-- What an argument element is an element of, by the word in its second entry. -/
inductive ArgumentType where
  /-- A date or a time. -/
  | moment (half : TemporalKind)
  /-- A number, in a style given behind the type. -/
  | number
  /-- A number, in a style that the type itself names. -/
  | styled (style : NumberStyle)
  /-- A choice by plural category. -/
  | plural (rules : PluralKind)
  /-- A choice by text. -/
  | select
  /-- A markup tag around children. -/
  | tag
  /-- A markup tag that closes itself. -/
  | emptyTag
  deriving DecidableEq, Repr

/-- The types that are named by one word each. -/
def ArgumentType.keyed : List (String × ArgumentType) :=
  [("number", number), ("spellout", styled .spellout), ("ordinal", styled .ordinal),
    ("duration", styled .duration), ("select", select), ("tag", tag),
    ("self-closing-tag", emptyTag)]

def ArgumentType.ofKeyword? (word : String) : Option ArgumentType :=
  match TemporalKind.ofKeyword? word, PluralKind.ofKeyword? word with
  | some half, _ => some (moment half)
  | none, some rules => some (plural rules)
  | none, none => keyed.lookup word

/-- What is wrong with the shape of an argument element. -/
inductive Defect where
  | idNotText
  | typeNotText
  | offsetNotInteger
  | branchesNotObject
  | bodyNotArray
  | attributesNotText
  deriving DecidableEq, Repr

def Defect.message : Defect → String
  | idNotText => "first entry must be the argument id"
  | typeNotText => "type must be a string"
  | offsetNotInteger => "offset must be an integer"
  | branchesNotObject => "branches must be an object"
  | bodyNotArray => "expected [attributes, children]"
  | attributesNotText => "attributes must be a string"

/-- Why a text or a value is not a pattern. -/
inductive DecodeError where
  /-- The text is not JSON. -/
  | notJson (fault : Json.Fault)
  /-- A value stands where a pattern is expected and is no array. -/
  | notSequence (found : Json)
  /-- An item of a pattern is neither a string nor an array. -/
  | strayItem
  /-- An argument element names a type that does not exist. -/
  | unknownType (id kind : String)
  /-- An argument element does not have the shape that its type asks for. -/
  | malformed (id kind : String) (defect : Defect)

def DecodeError.message : DecodeError → String
  | notJson .ended => "invalid message tree: the text ends before its value is complete"
  | notJson .malformed => "invalid message tree: the text is not JSON"
  | notSequence found =>
    "invalid message tree: invalid type: " ++ found.description ++ ", expected a sequence"
  | strayItem =>
    "invalid message tree: data did not match any variant of untagged enum Element"
  | unknownType id kind => "unknown argument type '" ++ kind ++ "' for '" ++ id ++ "'"
  | malformed id kind defect =>
    "malformed " ++ kind ++ " element '" ++ id ++ "': " ++ defect.message

namespace Pattern

/-! ### Parts without elements in them -/

/-- An item that can be an element: a string or an array. -/
def isItem : Json → Bool
  | .text _ => true
  | .array _ => true
  | _ => false

/-- The style keyword of an element, if its entry is a string. -/
def keyword? (rest : List Json) : Option String :=
  rest.head?.bind Json.text?

/-- The offset of a plural: zero if left out, else an integer of 64 bits. -/
def decodeOffset (id kind : String) (rest : List Json) : Except DecodeError Int64 :=
  match rest with
  | [] => .ok 0
  | .null :: _ => .ok 0
  | .integer n :: _ =>
    match Text.word? n with
    | some n => .ok n
    | none => .error (.malformed id kind .offsetNotInteger)
  | _ :: _ => .error (.malformed id kind .offsetNotInteger)

/-- The attributes of a tag, trimmed; empty if left out. -/
def decodeAttributes (id kind : String) (body : List Json) : Except DecodeError String :=
  match body with
  | [] => .ok ""
  | .null :: _ => .ok ""
  | .text attributes :: _ => .ok (Text.trim attributes)
  | _ :: _ => .error (.malformed id kind .attributesNotText)

/-- A tag that closes itself: an optional array that starts with the attributes. -/
def decodeEmptyTag (id kind : String) (rest : List Json) : Except DecodeError Element :=
  match rest with
  | [] => .ok (.emptyTag id "")
  | .null :: _ => .ok (.emptyTag id "")
  | .array body :: _ => (decodeAttributes id kind body).map (.emptyTag id)
  | _ :: _ => .error (.malformed id kind .bodyNotArray)

/-! ### Elements -/

mutual

/-- The pattern that a JSON value denotes. -/
def ofJson : Json → Except DecodeError (List Element)
  | .array items => if items.all isItem then decodeItems items else .error .strayItem
  | v => .error (.notSequence v)

/-- The elements of an array, from left to right. -/
def decodeItems : List Json → Except DecodeError (List Element)
  | [] => .ok []
  | .text s :: rest => do
    let es ← decodeItems rest
    return .literal s :: es
  | .array entries :: rest => do
    let e ← decodeArgument entries
    let es ← decodeItems rest
    return e :: es
  | _ :: _ => .error .strayItem

/-- An argument element: an id, nothing or null for a plain placeholder, else a
    type and what the type asks for. The children of a tag are decoded before
    its attributes are looked at. -/
def decodeArgument : List Json → Except DecodeError Element
  | .text id :: entries =>
    -- whatever else the array holds
    if id = "#" then .ok .pound
    else
      match entries with
      | [] => .ok (.argument id)
      | .null :: _ => .ok (.argument id)
      | .text kind :: rest =>
        match ArgumentType.ofKeyword? kind with
        | none => .error (.unknownType id kind)
        | some (.moment half) => .ok (.moment id half (.ofKeyword (keyword? rest)))
        | some .number => .ok (.number id 0 (.ofKeyword (keyword? rest)))
        | some (.styled style) => .ok (.number id 0 style)
        | some (.plural rules) => do
          let offset ← decodeOffset id kind rest
          match rest with
          -- the offset has its place even when it is null
          | _ :: .object members :: _ =>
            let branches ← decodeBranches members
            return .plural id rules offset (Table.ofList branches)
          | _ => throw (.malformed id kind .branchesNotObject)
        | some .select =>
          match rest with
          | .object members :: _ => do
            let branches ← decodeBranches members
            return .select id (Table.ofList branches)
          | _ => .error (.malformed id kind .branchesNotObject)
        | some .tag =>
          match rest with
          | [] => .ok (.tag id "" [])
          | .null :: _ => .ok (.tag id "" [])
          | .array (attributes :: .null :: _) :: _ =>
            (decodeAttributes id kind [attributes]).map fun a => .tag id a []
          | .array (attributes :: children :: _) :: _ => do
            let es ← ofJson children
            let a ← decodeAttributes id kind [attributes]
            return .tag id a es
          | .array body :: _ => (decodeAttributes id kind body).map fun a => .tag id a []
          | _ :: _ => .error (.malformed id kind .bodyNotArray)
        | some .emptyTag => decodeEmptyTag id kind rest
      | _ :: _ => .error (.malformed id "argument" .typeNotText)
  | _ => .error (.malformed "" "argument" .idNotText)

/-- The branches of an object with their keys trimmed, in the order of its members. -/
def decodeBranches : List (String × Json) → Except DecodeError (List (String × List Element))
  | [] => .ok []
  | (key, v) :: rest => do
    let es ← ofJson v
    let bs ← decodeBranches rest
    return (Text.trim key, es) :: bs

end

def parse (s : String) : Except DecodeError Pattern :=
  match Json.parse s with
  | .error fault => .error (.notJson fault)
  | .ok v => ofJson v

end Pattern

end Phrasebook
