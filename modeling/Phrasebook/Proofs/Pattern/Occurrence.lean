import Mathlib.Tactic.MkIffOfInductiveProp
import Phrasebook.Template.Compile

/-! # Elements inside a pattern

    Where an element stands in a pattern and what stands around it. A place is
    the list of turns taken on the way down: the element of a list by its number,
    the branch of a choice by its key. The children of a tag need no turn of
    their own.

    Statements about all elements of a pattern, at whatever depth, quantify over
    `Pattern.At`.
-/

namespace Phrasebook

/-! ### Induction over elements -/

/-- **Induction over elements**: a property that an element has as soon as all
    elements in its branches or children have it holds of every element. -/
theorem Element.induct {motive : Element → Prop}
    (literal : ∀ text, motive (.literal text))
    (argument : ∀ id, motive (.argument id))
    (number : ∀ id offset style, motive (.number id offset style))
    (moment : ∀ id kind style, motive (.moment id kind style))
    (plural : ∀ id kind offset branches,
      (∀ b ∈ branches, ∀ e ∈ b.2, motive e) → motive (.plural id kind offset branches))
    (select : ∀ id branches,
      (∀ b ∈ branches, ∀ e ∈ b.2, motive e) → motive (.select id branches))
    (tag : ∀ id attributes children,
      (∀ e ∈ children, motive e) → motive (.tag id attributes children))
    (emptyTag : ∀ id attributes, motive (.emptyTag id attributes))
    (pound : motive .pound) (e : Element) : motive e := by
  -- of branches and of patterns: every element in them has the property
  refine @Element.rec motive (fun bs => ∀ b ∈ bs, ∀ e ∈ b.2, motive e)
    (fun es => ∀ e ∈ es, motive e) (fun b => ∀ e ∈ b.2, motive e)
    literal argument number moment plural select tag emptyTag pound ?_ ?_ ?_ ?_ ?_ e
  · intro b hb
    exact absurd hb List.not_mem_nil
  · intro b bs hb hbs
    exact List.forall_mem_cons.mpr ⟨hb, hbs⟩
  · intro e he
    exact absurd he List.not_mem_nil
  · intro e es he hes
    exact List.forall_mem_cons.mpr ⟨he, hes⟩
  · intro key es hes
    exact hes

/-! ### The parts of an element -/

namespace Element

def branches : Element → Branches
  | .plural _ _ _ bs => bs
  | .select _ bs => bs
  | _ => []

def children : Element → Pattern
  | .tag _ _ es => es
  | _ => []

def IsPlural : Element → Prop
  | .plural .. => True
  | _ => False

def IsChoice : Element → Prop
  | .plural .. => True
  | .select .. => True
  | _ => False

def tagName? : Element → Option String
  | .tag id _ _ => some id
  | .emptyTag id _ => some id
  | _ => none

/-- The plural that a `#` directly inside an element refers to, given the one
    around the element: a plural is its own context, all others hand theirs on. -/
def context (c : Option PluralContext) : Element → Option PluralContext
  | .plural id _ offset _ => some ⟨id, offset⟩
  | _ => c

end Element

/-- Where ascending entries are cut at one of them, every entry stands before the
    cut, or is the one there, or has a greater key. -/
theorem Table.Ascending.mem_cut {α : Type} {before after : Table α} {a b : String × α}
    (h : Table.Ascending (before ++ a :: after)) (hb : b ∈ before ++ a :: after) :
    b ∈ before ∨ b = a ∨ a.1 < b.1 := by
  obtain ⟨_, hafter, _⟩ := List.pairwise_append.mp h
  rcases List.mem_append.mp hb with hb | hb
  · exact Or.inl hb
  · rcases List.mem_cons.mp hb with rfl | hb
    · exact Or.inr (Or.inl rfl)
    · exact Or.inr (Or.inr ((List.pairwise_cons.mp hafter).1 b hb))

/-! ### Places -/

/-- One turn on the way to a place in a pattern. -/
inductive Turn where
  /-- To an element of a list, by its number. -/
  | element (i : Nat)
  /-- Into the branch under a key. -/
  | branch (key : String)
  /-- To the key of a branch. -/
  | key (key : String)
  /-- Behind all branches, to where a fallback is missing. -/
  | fallback
  deriving DecidableEq

/-- A place in a pattern: the turns on the way to it. -/
abbrev Place := List Turn

namespace Pattern

/-- An element stands at a place of a pattern, below the given elements, of which
    the outermost comes first. -/
inductive At : Pattern → Place → List Element → Element → Prop
  /-- An element of the pattern itself. -/
  | here {p : Pattern} {i : Nat} {e : Element} (h : p[i]? = some e) : At p [.element i] [] e
  /-- An element in a branch of a choice. -/
  | branch {p body : Pattern} {i : Nat} {choice e : Element} {key : String} {π : Place}
      {above : List Element} (hi : p[i]? = some choice) (hb : (key, body) ∈ choice.branches)
      (h : At body π above e) : At p (.element i :: .branch key :: π) (choice :: above) e
  /-- An element among the children of a tag. -/
  | child {p : Pattern} {i : Nat} {tag e : Element} {π : Place} {above : List Element}
      (hi : p[i]? = some tag) (h : At tag.children π above e) :
      At p (.element i :: π) (tag :: above) e

/-- The innermost plural among elements that stand around a place, seen from
    inside a given context. -/
def innermost (c : Option PluralContext) (above : List Element) : Option PluralContext :=
  above.foldl Element.context c

/-- Every element of a pattern, at whatever depth, has a property. -/
def Everywhere (P : Element → Prop) (p : Pattern) : Prop :=
  ∀ π above e, p.At π above e → P e

/-- An element and every element inside it have a property. -/
@[mk_iff]
structure Throughout (P : Element → Prop) (e : Element) : Prop where
  self : P e
  branches : ∀ b ∈ e.branches, Everywhere P b.2
  children : Everywhere P e.children

/-- A property holds everywhere in a pattern exactly when it holds throughout its elements. -/
theorem everywhere_iff {P : Element → Prop} {p : Pattern} :
    p.Everywhere P ↔ ∀ e ∈ p, Throughout P e := by
  -- a place starts with the number of an element and goes on inside that element
  constructor
  · intro h e he
    obtain ⟨i, hi⟩ := List.mem_iff_getElem?.mp he
    exact
      { self := h _ _ e (.here hi)
        branches := fun b hb π above a ha => h _ _ a (.branch hi hb ha)
        children := fun π above a ha => h _ _ a (.child hi ha) }
  · intro h π above e hat
    cases hat with
    | here hi => exact (h e (List.mem_of_getElem? hi)).self
    | branch hi hb hat => exact (h _ (List.mem_of_getElem? hi)).branches _ hb _ _ e hat
    | child hi hat => exact (h _ (List.mem_of_getElem? hi)).children _ _ e hat

@[simp] theorem everywhere_nil {P : Element → Prop} : Everywhere P [] :=
  everywhere_iff.mpr fun _ he => absurd he List.not_mem_nil

/-- A property holds throughout an element with nothing inside if it holds of the element. -/
theorem Throughout.of_leaf {P : Element → Prop} {e : Element} (h : P e) (hb : e.branches = [])
    (hc : e.children = []) : Throughout P e where
  self := h
  branches := by simp [hb]
  children := hc ▸ everywhere_nil

@[simp] theorem everywhere_cons_iff {P : Element → Prop} {e : Element} {p : Pattern} :
    Everywhere P (e :: p) ↔ Throughout P e ∧ Everywhere P p := by
  rw [everywhere_iff, everywhere_iff, List.forall_mem_cons]

/-- A tag of a given name stands somewhere in a pattern. -/
def HasTag (p : Pattern) (id : String) : Prop :=
  ∃ π above e, p.At π above e ∧ e.tagName? = some id

/-- The branches of every choice in a pattern are in ascending order of their
    keys, each key once. -/
def Ordered (p : Pattern) : Prop :=
  ∀ π above e, p.At π above e → Table.Ascending e.branches

/-- The parts of an element are ordered: ascending branches, each of them
    ordered, and ordered children. -/
@[mk_iff]
structure OrderedParts (e : Element) : Prop where
  ascending : Table.Ascending e.branches
  branches : ∀ b ∈ e.branches, Ordered b.2
  children : Ordered e.children

/-- A pattern is ordered as soon as the parts of its elements are. -/
theorem ordered_iff {p : Pattern} : p.Ordered ↔ ∀ e ∈ p, OrderedParts e := by
  have hparts : p.Ordered ↔ p.Everywhere fun e => Table.Ascending e.branches := Iff.rfl
  rw [hparts, everywhere_iff]
  refine forall₂_congr fun e _ => ?_
  exact ⟨fun h => ⟨h.self, h.branches, h.children⟩,
    fun h => ⟨h.ascending, h.branches, h.children⟩⟩

@[simp] theorem ordered_nil : Ordered [] :=
  ordered_iff.mpr fun _ he => absurd he List.not_mem_nil

@[simp] theorem ordered_cons_iff {e : Element} {p : Pattern} :
    Ordered (e :: p) ↔ OrderedParts e ∧ Ordered p := by
  rw [ordered_iff, ordered_iff, List.forall_mem_cons]

/-- There is no plural around a place exactly when none of the elements above it
    is one and the context has none. -/
theorem innermost_eq_none_iff {c : Option PluralContext} {above : List Element} :
    innermost c above = none ↔ c = none ∧ ∀ a ∈ above, ¬ a.IsPlural := by
  -- walking down replaces the context, so it varies in the induction
  induction above generalizing c with
  | nil => simp [innermost]
  | cons a above ih =>
    have hstep : innermost c (a :: above) = innermost (a.context c) above := rfl
    rw [hstep, ih, List.forall_mem_cons]
    cases a <;> simp [Element.context, Element.IsPlural]

/-- The plural around a place is one of the elements above it. -/
theorem exists_plural_of_innermost {above : List Element} :
    ∀ {c : Option PluralContext} {around : PluralContext}, innermost c above = some around →
      c = some around ∨ ∃ kind bs, .plural around.id kind around.offset bs ∈ above := by
  -- induction on the elements above, with the context that the outer ones leave
  induction above with
  | nil =>
    intro c around h
    exact Or.inl h
  | cons a above ih =>
    intro c around h
    have hstep : innermost (a.context c) above = some around := h
    rcases ih hstep with hcontext | ⟨kind, bs, hmem⟩
    · cases a with
      | plural id kind offset bs =>
        obtain rfl : (⟨id, offset⟩ : PluralContext) = around := Option.some.inj hcontext
        exact Or.inr ⟨kind, bs, List.mem_cons_self⟩
      | literal | argument | number | moment | select | tag | emptyTag | pound =>
        exact Or.inl hcontext
    · exact Or.inr ⟨kind, bs, List.mem_cons_of_mem _ hmem⟩

/-- The elements above a place stand in the pattern themselves. -/
theorem At.exists_of_mem_above {p : Pattern} {π : Place} {above : List Element}
    {e a : Element} (h : p.At π above e) (ha : a ∈ above) : ∃ π' above', p.At π' above' a := by
  -- induction on the place: an element above is the outermost one or further in
  induction h with
  | here hi => exact absurd ha List.not_mem_nil
  | branch hi hb _ ih =>
    rcases List.mem_cons.mp ha with rfl | ha
    · exact ⟨_, _, .here hi⟩
    · obtain ⟨π', above', hat⟩ := ih ha
      exact ⟨_, _, .branch hi hb hat⟩
  | child hi _ ih =>
    rcases List.mem_cons.mp ha with rfl | ha
    · exact ⟨_, _, .here hi⟩
    · obtain ⟨π', above', hat⟩ := ih ha
      exact ⟨_, _, .child hi hat⟩

end Pattern

end Phrasebook
