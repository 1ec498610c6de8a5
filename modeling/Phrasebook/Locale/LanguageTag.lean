import Phrasebook.Table

/-! # Language tags

    A language tag names a locale by subtags between hyphens: a language, then
    optionally a script, a region, variants, extensions behind a single letter or
    digit, and private subtags behind an `x`. Letters of either case are read; the
    text of a tag is in its one canonical form.
-/

namespace Phrasebook

/-- A language tag in canonical form. All subtags are kept in small letters but
    the script and the region, which are kept as they are written. -/
structure LanguageTag where
  /-- Two or three letters. -/
  language : String
  /-- Four letters, the first a capital. -/
  script : Option String
  /-- Two capitals or three digits. -/
  region : Option String
  /-- Variants in ascending order, each once. -/
  variants : List String
  /-- The subtags of each extension under its letter or digit. -/
  extensions : Table (List String)
  /-- Private subtags. -/
  privateUse : List String
  deriving DecidableEq, Repr

namespace LanguageTag

/-! ### Kinds of subtags -/

def isLetters (s : String) : Bool :=
  s.toList.all Char.isAlpha

def isWord (s : String) : Bool :=
  s.toList.all Char.isAlphanum

def isLanguage (s : String) : Bool :=
  isLetters s && (s.length == 2 || s.length == 3)

def isScript (s : String) : Bool :=
  isLetters s && s.length == 4

def isRegion (s : String) : Bool :=
  (isLetters s && s.length == 2) || (s.toList.all Char.isDigit && s.length == 3)

def isVariant (s : String) : Bool :=
  isWord s && ((5 ≤ s.length && s.length ≤ 8) ||
    (s.length == 4 && s.toList.head?.any Char.isDigit))

/-- A value inside an extension has three to eight letters and digits. -/
def isValue (s : String) : Bool :=
  isWord s && 3 ≤ s.length && s.length ≤ 8

def isSingleton (s : String) : Bool :=
  isWord s && s.length == 1

/-- A subtag of an extension without rules of its own has a size of two to eight
    bytes, whatever its characters are. -/
def isSized (s : String) : Bool :=
  2 ≤ s.utf8ByteSize && s.utf8ByteSize ≤ 8

def isUnicodeKey (s : String) : Bool :=
  match s.toList with
  | [a, b] => a.isAlphanum && b.isAlpha
  | _ => false

def isTransformKey (s : String) : Bool :=
  match s.toList with
  | [a, b] => a.isAlpha && b.isDigit
  | _ => false

/-! ### Reading -/

def insertSorted (s : String) : List String → List String
  | [] => [s]
  | t :: ts => if s < t then s :: t :: ts else t :: insertSorted s ts

/-- Read variants into an ascending list; one that comes twice is refused. -/
def readVariants (found : List String) : List String → Option (List String × List String)
  | [] => some (found, [])
  | s :: rest =>
    if !isVariant s then some (found, s :: rest)
    else if s ∈ found then none
    else readVariants (insertSorted s found) rest

/-- Read a subtag of a kind if the next one is of it. -/
def readOptional (kind : String → Bool) : List String → Option String × List String
  | [] => (none, [])
  | s :: rest => if kind s then (some s, rest) else (none, s :: rest)

/-- Language, script, region and variants, with the subtags behind them. -/
structure Identifier where
  language : String
  script : Option String
  region : Option String
  variants : List String
  rest : List String

/-- Read a language, and what may follow it of a script, a region and variants. -/
def readIdentifier : List String → Option Identifier
  | [] => none
  | language :: subtags =>
    if !isLanguage language then none
    else
      let (script, subtags) := readOptional isScript subtags
      let (region, subtags) := readOptional isRegion subtags
      (readVariants [] subtags).map fun (variants, rest) =>
        ⟨language, script, region, variants, rest⟩

/-- Read keys with their values up to the end. The value `true` is
    understood and dropped; of two values of one key the first stays. -/
def readKeyed (isKey : String → Bool) (needsValue : Bool) (found : Table (List String))
    (subtags : List String) : Option (Table (List String)) :=
  match subtags with
  | [] => some found
  | key :: more =>
    if !isKey key then none
    else if needsValue && !(more.head?.any isValue) then none
    else
      let values := (more.takeWhile isValue).filter (· != "true")
      let found := if (found.lookup key).isSome then found else found.insert key values
      readKeyed isKey needsValue found (more.dropWhile isValue)
termination_by subtags.length
decreasing_by
  have := (List.dropWhile_sublist isValue (l := more)).length_le
  simp; omega

/-- The canonical subtags of the extension `u`: attributes in ascending order,
    then keys with their values. -/
def readUnicode (subtags : List String) : Option (List String) := do
  let attributes := (subtags.takeWhile isValue).foldl
    (fun found s => if s ∈ found then found else insertSorted s found) []
  let keyed ← readKeyed isUnicodeKey false [] (subtags.dropWhile isValue)
  return attributes ++ keyed.flatMap fun (key, values) => key :: values

/-- The canonical subtags of the extension `t`: a language identifier, then keys
    with their values, of which there is at least one. -/
def readTransform (subtags : List String) : Option (List String) := do
  -- the value `true` was dropped by `readKeyed`, but a key of `t` is not written alone
  let field := fun (key, values) => key :: if values.isEmpty then ["true"] else values
  if (subtags.head?.any isLanguage) then
    let id ← readIdentifier subtags
    let keyed ← readKeyed isTransformKey true [] id.rest
    return id.language :: id.script.toList ++ id.region.toList ++ id.variants ++
      keyed.flatMap field
  else
    let keyed ← readKeyed isTransformKey true [] subtags
    return keyed.flatMap field

/-- The canonical subtags of an extension without rules of its own: the words,
    in the order in which they stand. Any other subtag of a fitting size is left out. -/
def readOther (subtags : List String) : Option (List String) :=
  if subtags.all isSized then some (subtags.filter isWord) else none

/-- The canonical subtags of an extension under its singleton; an extension that
    has none is refused. -/
def readExtension (singleton : String) (subtags : List String) : Option (List String) := do
  let canonical ←
    if singleton = "u" then readUnicode subtags
    else if singleton = "t" then readTransform subtags
    else readOther subtags
  if canonical.isEmpty then none else some canonical

/-- Read extensions up to the end. No singleton may start two of them, and an `x`
    takes all that follows. -/
def readExtensions (found : Table (List String)) (subtags : List String) :
    Option (Table (List String) × List String) :=
  match subtags with
  | [] => some (found, [])
  | singleton :: more =>
    if singleton = "x" then
      if more.isEmpty || !more.all (fun s => isWord s && 1 ≤ s.length && s.length ≤ 8) then none
      else some (found, more)
    else if !isSingleton singleton || (found.lookup singleton).isSome then none
    else
      match readExtension singleton (more.takeWhile fun s => !isSingleton s) with
      | none => none
      | some canonical =>
        readExtensions (found.insert singleton canonical) (more.dropWhile fun s => !isSingleton s)
termination_by subtags.length
decreasing_by
  have := (List.dropWhile_sublist (fun s : String => !isSingleton s) (l := more)).length_le
  simp; omega

def writtenScript (s : String) : String :=
  match s.toList with
  | [] => ""
  | c :: cs => String.ofList (c.toUpper :: cs)

def writtenRegion (s : String) : String :=
  String.ofList (s.toList.map Char.toUpper)

/-- The tag that a text denotes. -/
def ofText? (s : String) : Option LanguageTag := do
  let subtags := ((s.toList.map Char.toLower).splitOn '-').map String.ofList
  let id ← readIdentifier subtags
  let (extensions, privateUse) ← readExtensions [] id.rest
  return ⟨id.language, id.script.map writtenScript, id.region.map writtenRegion, id.variants,
    extensions, privateUse⟩

/-! ### Writing -/

def subtags (t : LanguageTag) : List String :=
  t.language :: t.script.toList ++ t.region.toList ++ t.variants ++
    t.extensions.flatMap (fun (singleton, values) => singleton :: values) ++
    (if t.privateUse.isEmpty then [] else "x" :: t.privateUse)

def text (t : LanguageTag) : String :=
  String.intercalate "-" t.subtags

end LanguageTag

end Phrasebook
