import Phrasebook.Proofs.Template.FirstDefect
import Phrasebook.Proofs.Template.Leaves
import Phrasebook.Template.Render

/-! # The meaning of `#`

    A `#` stands for the number of the innermost plural around it, whatever
    selects and tags lie in between. Writing that number out in place of every
    `#` gives a pattern without `#` that compiles and renders as before.
-/

namespace Phrasebook

/-! ### Places in a pattern with its leaves replaced -/

section
variable {f : Option PluralContext → Element → Element}

theorem Element.IsLeaf.parts {e : Element} (h : e.IsLeaf) : e.branches = [] ∧ e.children = [] := by
  cases e with
  | plural | select | tag => exact absurd h id
  | _ => exact ⟨rfl, rfl⟩

/-- The branches and children of an element with its leaves replaced are its own
    with their leaves replaced, each seen from inside the element. -/
theorem Element.mapLeaves_parts (keep : ∀ c e, e.IsLeaf → (f c e).IsLeaf)
    (c : Option PluralContext) (e : Element) :
    (e.mapLeaves f c).branches =
        e.branches.map (fun b => (b.1, Pattern.mapLeaves f (e.context c) b.2)) ∧
      (e.mapLeaves f c).children = Pattern.mapLeaves f (e.context c) e.children := by
  cases e with
  | plural id kind offset bs =>
    simp only [Element.mapLeaves, Element.branches, Element.children, Element.context,
      Branches.mapLeaves_eq_map, Pattern.mapLeaves, and_self]
  | select id bs =>
    simp only [Element.mapLeaves, Element.branches, Element.children, Element.context,
      Branches.mapLeaves_eq_map, Pattern.mapLeaves, and_self]
  | tag id attributes es =>
    simp only [Element.mapLeaves, Element.branches, Element.children, Element.context,
      List.map_nil, and_self]
  | _ =>
    simp only [Element.mapLeaves]
    refine (keep c _ ?_).parts
    trivial

theorem Pattern.at_of_at_mapLeaves (keep : ∀ c e, e.IsLeaf → (f c e).IsLeaf)
    {c : Option PluralContext} {p : Pattern} {π : Place} {above' : List Element} {e' : Element}
    (h : At (mapLeaves f c p) π above' e') :
    ∃ above e, p.At π above e ∧ e' = e.mapLeaves f (innermost c above) := by
  -- the pattern is an index of the place, and its context changes on the way down
  generalize hq : mapLeaves f c p = q at h
  induction h generalizing c p with
  | here hi =>
    rw [← hq, mapLeaves_eq_map, List.getElem?_map] at hi
    obtain ⟨e, he, rfl⟩ := Option.map_eq_some_iff.mp hi
    exact ⟨[], e, .here he, rfl⟩
  | branch hi hb _ ih =>
    rw [← hq, mapLeaves_eq_map, List.getElem?_map] at hi
    obtain ⟨a, ha, rfl⟩ := Option.map_eq_some_iff.mp hi
    rw [(Element.mapLeaves_parts keep c a).1] at hb
    obtain ⟨⟨key, body⟩, hmem, hbody⟩ := List.mem_map.mp hb
    obtain ⟨rfl, rfl⟩ := Prod.mk.inj hbody
    obtain ⟨above, e, hat, rfl⟩ := ih rfl
    exact ⟨a :: above, e, .branch ha hmem hat, rfl⟩
  | child hi _ ih =>
    rw [← hq, mapLeaves_eq_map, List.getElem?_map] at hi
    obtain ⟨a, ha, rfl⟩ := Option.map_eq_some_iff.mp hi
    obtain ⟨above, e, hat, rfl⟩ := ih (Element.mapLeaves_parts keep c a).2.symm
    exact ⟨a :: above, e, .child ha hat, rfl⟩

theorem Pattern.At.mapLeaves (keep : ∀ c e, e.IsLeaf → (f c e).IsLeaf) {p : Pattern} {π : Place}
    {above : List Element} {e : Element} (h : p.At π above e) : ∀ c : Option PluralContext,
      ∃ above', At (Pattern.mapLeaves f c p) π above' (e.mapLeaves f (innermost c above)) := by
  induction h with
  | here hi =>
    intro c
    refine ⟨[], .here ?_⟩
    rw [mapLeaves_eq_map, List.getElem?_map, hi]
    rfl
  | @branch _ body _ a _ key _ _ hi hb _ ih =>
    intro c
    obtain ⟨above', hat⟩ := ih (a.context c)
    refine ⟨a.mapLeaves f c :: above', .branch ?_ ?_ hat⟩
    · rw [mapLeaves_eq_map, List.getElem?_map, hi]
      rfl
    · rw [(Element.mapLeaves_parts keep c a).1]
      exact List.mem_map.mpr ⟨(key, body), hb, rfl⟩
  | @child _ _ a _ _ _ hi _ ih =>
    intro c
    obtain ⟨above', hat⟩ := ih (a.context c)
    refine ⟨a.mapLeaves f c :: above', .child ?_ ?_⟩
    · rw [mapLeaves_eq_map, List.getElem?_map, hi]
      rfl
    · rw [(Element.mapLeaves_parts keep c a).2]
      exact hat

end

/-! ### Writing the number out -/

/-- The number of the plural around it in place of a `#`. -/
def Element.poundExpanded (c : Option PluralContext) : Element → Element
  | .pound =>
    match c with
    | some around => .number around.id around.offset .plain
    | none => .pound
  | e => e

/-- The pattern with the number of the innermost plural in place of every `#`. -/
def Pattern.expandPounds (p : Pattern) : Pattern :=
  Pattern.mapLeaves Element.poundExpanded none p

theorem Element.isLeaf_poundExpanded (c : Option PluralContext) (e : Element) (h : e.IsLeaf) :
    (e.poundExpanded c).IsLeaf := by
  cases e with
  | pound => cases c <;> trivial
  | _ => exact h

/-- A place that still holds a `#` held one before, with no plural around it. -/
theorem Pattern.at_of_at_expandPounds {p : Pattern} {π : Place} {above' : List Element}
    (h : p.expandPounds.At π above' .pound) :
    ∃ above, p.At π above .pound ∧ innermost none above = none := by
  obtain ⟨above, e, hat, he⟩ := at_of_at_mapLeaves Element.isLeaf_poundExpanded h
  cases e with
  | pound =>
    refine ⟨above, hat, ?_⟩
    cases hc : innermost none above with
    | none => rfl
    | some c =>
      rw [hc] at he
      simp [Element.mapLeaves, Element.poundExpanded] at he
  | _ => simp [Element.mapLeaves, Element.poundExpanded] at he

namespace Template

/-- Writing out the numbers does not change the template, nor the error. -/
theorem compile_expandPounds (p : Pattern) : compile p.expandPounds = compile p := by
  -- the number that replaces a `#` has the template that the `#` itself compiles to
  have hleaf : ∀ c e, e.IsLeaf → compileElement c (e.poundExpanded c) =
      (compileElement c e).map (mapLeaves fun leaf => leaf) := by
    intro c e he
    cases e with
    | plural | select | tag => exact absurd he id
    | pound => cases c <;> rfl
    | _ => rfl
  rw [Pattern.expandPounds, compile_mapLeaves hleaf]
  cases compile p with
  | error x => rfl
  | ok t => exact congrArg Except.ok (mapLeaves_self t)

/-- **A `#` is the number of the innermost plural around it.** A pattern that compiles
    has a plural around every `#`. With the numbers written out, that number stands
    in place of each `#` and no `#` is left, and the pattern compiles and renders to
    the same fragment with the same absences, or to the same error, for all
    arguments and localizers. -/
theorem pound_is_innermost_number {p : Pattern} {t : Template} (h : compile p = .ok t) :
    (∀ π above, p.At π above .pound → ∃ around above', Pattern.innermost none above = some around ∧
      p.expandPounds.At π above' (.number around.id around.offset .plain)) ∧
    (∀ π above, ¬ p.expandPounds.At π above .pound) ∧
    ∃ t', compile p.expandPounds = .ok t' ∧ ∀ env, t'.run env = t.run env := by
  -- a `#` without a plural around it would be a defect of a pattern that compiles
  have hinside : ∀ π above, p.At π above .pound → Pattern.innermost none above ≠ none := by
    intro π above hat hnone
    exact no_defect_of_compile h π .poundOutsidePlural
      ⟨π, above, .pound, [], hat, .pound hnone, (List.append_nil π).symm⟩
  refine ⟨fun π above hat => ?_, fun π above' hat => ?_, t, ?_, fun env => rfl⟩
  · obtain ⟨around, haround⟩ := Option.ne_none_iff_exists'.mp (hinside π above hat)
    obtain ⟨above', hat'⟩ := hat.mapLeaves Element.isLeaf_poundExpanded none
    refine ⟨around, above', haround, ?_⟩
    rw [haround] at hat'
    exact hat'
  · obtain ⟨above, hat, hnone⟩ := Pattern.at_of_at_expandPounds hat
    exact hinside π above hat hnone
  · rw [compile_expandPounds, h]

/-- An inner plural takes its own `#`; behind it, below a select and a tag, the outer one is
    meant. -/
theorem pounds_of_nested_plurals :
    let p : Pattern :=
      [.plural "n" .cardinal 1 [("other",
        [.plural "m" .cardinal 0 [("other", [.pound])],
          .select "g" [("other", [.tag "b" "" [.pound]])]])]]
    p.expandPounds =
      [.plural "n" .cardinal 1 [("other",
        [.plural "m" .cardinal 0 [("other", [.number "m" 0 .plain])],
          .select "g" [("other", [.tag "b" "" [.number "n" 1 .plain]])]])]] ∧
      ∃ t t', compile p = .ok t ∧ compile p.expandPounds = .ok t' ∧
        ∀ env, t'.run env = t.run env := by
  intro p
  have hcompile : compile p = .ok (.plural "n" .cardinal 1 [] [] (.sequence
      [.plural "m" .cardinal 0 [] [] (.number "m" 0 .plain),
        .select "g" [] (.tag "b" "" (.number "n" 1 .plain))])) := rfl
  obtain ⟨_, _, t', ht', hrun⟩ := pound_is_innermost_number hcompile
  exact ⟨rfl, _, t', hcompile, ht', hrun⟩

end Template

end Phrasebook
