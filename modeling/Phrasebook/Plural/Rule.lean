import Phrasebook.Locale.Localizer
import Phrasebook.Plural.Operands

/-! # Plural rules

    A rule gives a category to the numbers that meet its condition: an
    alternative of conjunctions of relations such as `n % 10 = 2..4`. The rules
    of a language are tried in order, and a number that meets none is `other`.
-/

namespace Phrasebook

/-- A part of a number as it is named in plural rules. -/
inductive Operand where
  /-- The value itself. It stands for no natural number if there is a fraction. -/
  | n
  /-- The integer part. -/
  | i
  /-- The number of shown fraction digits. -/
  | v
  /-- The shown fraction digits. -/
  | f
  /-- The shown fraction digits without trailing zeros. -/
  | t
  deriving DecidableEq, Repr

def Operand.value? (x : Operand) (o : Operands) : Option Nat :=
  match x with
  | n => if o.fraction = 0 then some o.whole else none
  | i => some o.whole
  | v => some o.places
  | f => some o.fraction
  | t => some (Text.withoutTrailingZeros o.fraction)

/-- An operand, or its remainder by a modulus. -/
structure PluralTerm where
  operand : Operand
  modulus : Option Nat
  deriving DecidableEq, Repr

namespace PluralTerm

def n : PluralTerm := ⟨.n, none⟩

def i : PluralTerm := ⟨.i, none⟩

/-- The number of shown fraction digits. -/
def v : PluralTerm := ⟨.v, none⟩

/-- The shown fraction digits. -/
def f : PluralTerm := ⟨.f, none⟩

/-- The shown fraction digits without trailing zeros. -/
def t : PluralTerm := ⟨.t, none⟩

instance : HMod PluralTerm Nat PluralTerm :=
  ⟨fun x m => { x with modulus := some m }⟩

def value? (x : PluralTerm) (o : Operands) : Option Nat :=
  (x.operand.value? o).map fun k =>
    match x.modulus with
    | some m => k % m
    | none => k

end PluralTerm

/-- That a term lies in one of some closed ranges, or that it does not. -/
structure PluralRelation where
  term : PluralTerm
  /-- The term must lie outside. -/
  negated : Bool
  ranges : List (Nat × Nat)
  deriving DecidableEq, Repr

namespace PluralTerm

def isIn (x : PluralTerm) (ranges : List (Nat × Nat)) : PluralRelation :=
  ⟨x, false, ranges⟩

def notIn (x : PluralTerm) (ranges : List (Nat × Nat)) : PluralRelation :=
  ⟨x, true, ranges⟩

end PluralTerm

def PluralRelation.holds (r : PluralRelation) (o : Operands) : Bool :=
  (match r.term.value? o with
    | some k => r.ranges.any fun range => range.1 ≤ k && k ≤ range.2
    | none => false) != r.negated

/-- A category with the condition for it: one of some conjunctions must hold. -/
structure PluralRule where
  category : Category
  condition : List (List PluralRelation)
  deriving DecidableEq, Repr

def PluralRule.applies (r : PluralRule) (o : Operands) : Bool :=
  r.condition.any fun conjunction => conjunction.all fun relation => relation.holds o

/-- The category of the first rule that applies, else `other`. -/
def categoryBy (rules : List PluralRule) (o : Operands) : Category :=
  ((rules.find? fun r => r.applies o).map PluralRule.category).getD .other

end Phrasebook
