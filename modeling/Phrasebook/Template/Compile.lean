import Phrasebook.Template.Basic
import Phrasebook.Text.Blank

/-! # From patterns to templates

    Checking a pattern and turning it into a template. The first defect is
    reported: elements are taken from left to right and branches in the order of
    their table, a branch before its own key, and a missing `other` branch only
    after all branches that are there.
-/

namespace Phrasebook

/-- Why a pattern is not well formed. -/
inductive PatternError where
  /-- A `#` has no plural around it. -/
  | poundOutsidePlural
  /-- A choice has no branch to fall back on. -/
  | missingOther (id : String)
  /-- A key that starts with `=` goes on with something that is no number. -/
  | invalidExactKey (id key : String)
  deriving DecidableEq, Repr

def PatternError.message : PatternError → String
  | poundOutsidePlural => "'#' used outside of a plural or selectordinal argument"
  | missingOther id => "argument '" ++ id ++ "' has no 'other' branch"
  | invalidExactKey id key => "invalid exact selector '" ++ key ++ "' in argument '" ++ id ++ "'"

/-- The key of the branch that every choice falls back on. -/
def otherKey : String := "other"

/-- What a branch key of a plural asks for. -/
inductive PluralKey where
  /-- All that no other branch takes. -/
  | other
  /-- The number itself. -/
  | exact (x : Binary64)
  /-- A plural category, by its keyword. -/
  | keyword (word : String)
  deriving DecidableEq

/-- The number behind the equals sign of a key, blanks around it aside. -/
def exactValue? (cs : List Char) : Option Binary64 :=
  Binary64.ofChars? (Text.trimChars cs)

/-- What a branch key asks for; none for an equals sign without a number behind it. -/
def PluralKey.ofText? (key : String) : Option PluralKey :=
  if key = otherKey then some .other
  else
    match key.toList with
    | '=' :: cs => (exactValue? cs).map .exact
    | _ => some (.keyword key)

/-- The plural that a `#` refers to. -/
structure PluralContext where
  /-- The argument that the plural chooses by. -/
  id : String
  /-- What the plural takes off the argument. -/
  offset : Int64
  deriving DecidableEq

def exactBranches {α : Type} (bs : List (PluralKey × α)) : List (Binary64 × α) :=
  bs.filterMap fun
    | (.exact x, a) => some (x, a)
    | _ => none

def keyedBranches {α : Type} (bs : List (PluralKey × α)) : List (String × α) :=
  bs.filterMap fun
    | (.keyword k, a) => some (k, a)
    | _ => none

namespace Template

mutual

def compileElement (parent : Option PluralContext) : Element → Except PatternError Template
  | .literal text => .ok (.literal text)
  | .argument id => .ok (.argument id)
  | .number id offset style => .ok (.number id offset style)
  | .moment id kind style => .ok (.moment id kind style)
  | .pound =>
    match parent with
    | some p => .ok (.number p.id p.offset .plain)
    | none => .error .poundOutsidePlural
  | .plural id kind offset branches => do
    let bs ← compilePluralBranches ⟨id, offset⟩ branches
    -- all branches are read by then, so a bad key among them is reported first
    match bs.lookup .other with
    | some other => return .plural id kind offset (exactBranches bs) (keyedBranches bs) other
    | none => throw (.missingOther id)
  | .select id branches => do
    let bs ← compileSelectBranches parent branches
    match bs.lookup otherKey with
    | some other => return .select id (bs.filter fun b => b.1 != otherKey) other
    | none => throw (.missingOther id)
  | .tag id attributes children => do
    let ts ← compileAll parent children
    return .tag id attributes (.ofParts ts)
  | .emptyTag id attributes => .ok (.emptyTag id attributes)

def compileAll (parent : Option PluralContext) : List Element → Except PatternError (List Template)
  | [] => .ok []
  | e :: es => do
    let t ← compileElement parent e
    let ts ← compileAll parent es
    return t :: ts

/-- The branches of a plural, which is the context of each. A branch is checked
    before its key. -/
def compilePluralBranches (context : PluralContext) :
    List (String × List Element) → Except PatternError (List (PluralKey × Template))
  | [] => .ok []
  | (key, es) :: bs => do
    let ts ← compileAll (some context) es
    match PluralKey.ofText? key with
    | none => throw (.invalidExactKey context.id key)
    | some k =>
      let rest ← compilePluralBranches context bs
      return (k, .ofParts ts) :: rest

/-- The branches of a select, which hands its own context on. -/
def compileSelectBranches (parent : Option PluralContext) :
    List (String × List Element) → Except PatternError (List (String × Template))
  | [] => .ok []
  | (key, es) :: bs => do
    let ts ← compileAll parent es
    let rest ← compileSelectBranches parent bs
    return (key, .ofParts ts) :: rest

end

def compile (p : Pattern) : Except PatternError Template :=
  (compileAll none p).map .ofParts

end Template

end Phrasebook
