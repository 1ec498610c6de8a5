import Phrasebook.Proofs.Render.Linked
import Phrasebook.Proofs.Text.Markup

/-! # Arguments and markup

    The text of an argument never becomes markup. With all placeholders blanked
    out, a pattern renders to the same markup characters in the same order, as
    long as no argument is a handler, which is trusted with the markup it makes.

    The two renderings take the same branches, ask the localizer the same
    questions and remember the same plain tags; they differ in the texts of
    placeholders, which hold no markup, and in the absences recorded for them.
-/

namespace Phrasebook

/-! ### Blank placeholders -/

/-- An empty literal in place of a placeholder. -/
def Element.argumentBlanked (_ : Option PluralContext) : Element → Element
  | .argument _ => .literal ""
  | e => e

def Pattern.blankArguments (p : Pattern) : Pattern :=
  Pattern.mapLeaves Element.argumentBlanked none p

namespace Template

def argumentBlanked : Template → Template
  | .argument _ => .literal ""
  | t => t

theorem compile_blankArguments (p : Pattern) :
    compile p.blankArguments = (compile p).map (mapLeaves argumentBlanked) := by
  have hleaf : ∀ c e, e.IsLeaf → compileElement c (e.argumentBlanked c) =
      (compileElement c e).map (mapLeaves argumentBlanked) := by
    intro c e he
    cases e with
    | plural | select | tag => exact absurd he id
    | pound => cases c <;> rfl
    | _ => rfl
  exact compile_mapLeaves hleaf p

end Template

/-! ### Renderings with and without placeholders -/

/-- Two states remember the same plain tags; they may differ in their absences. -/
def SameTags (s s' : CallState) : Prop :=
  s.plainTags = s'.plainTags

/-- Two fragments show the same markup characters in the same order. -/
def SameMarkup (p q : Fragment) : Prop :=
  markup p.flatten = markup q.flatten

theorem SameTags.recordAbsence (id : String) {s s' : CallState} (h : SameTags s s') :
    SameTags (s.recordAbsence id) (s'.recordAbsence id) := h

theorem SameTags.plainTag (t : PlainTag) {s s' : CallState} (h : SameTags s s') :
    (s.plainTag t).1 = (s'.plainTag t).1 ∧ SameTags (s.plainTag t).2 (s'.plainTag t).2 := by
  unfold SameTags at h
  unfold CallState.plainTag SameTags
  rw [← h]
  cases s.plainTags.lookup t.id with
  | some first => exact ⟨rfl, h⟩
  | none => exact ⟨rfl, by rw [h]⟩

/-- Fragments with the same markup one by one have the same markup side by side. -/
theorem SameMarkup.compatible : Fragment.Compatible SameMarkup :=
  Fragment.compatible_of_append markup fun s s' t t' hs ht => by
    rw [markup_append, markup_append, hs, ht]

namespace Template

open RenderM

variable {env : Environment}

/-- Without handlers among the arguments the handler of a tag is a plain tag, the same
    from states that remember the same plain tags. -/
theorem lockstep_tagHandler (plain : ∀ id f, env.arguments id ≠ some (.handler f))
    (t : PlainTag) :
    Lockstep SameTags (Handler.Respects SameMarkup) (tagHandler env t) (tagHandler env t) := by
  intro s s' hs
  rw [outcome_tagHandler, outcome_tagHandler]
  -- an argument that is no handler is an error for the tag on both sides
  cases harg : env.arguments t.id with
  | some v =>
    cases v with
    | handler f => exact absurd harg (plain t.id f)
    | _ => exact .error hs
  | none =>
    obtain ⟨hfirst, htags⟩ := hs.plainTag t
    rw [hfirst]
    exact .ok (PlainTag.respects SameMarkup.compatible _) htags

/-- A placeholder shows no markup, so it runs in lockstep with an empty text. -/
theorem lockstep_argument (plain : ∀ id f, env.arguments id ≠ some (.handler f)) (id : String) :
    Lockstep SameTags SameMarkup (renderArgument env id) (pure (.text "")) := by
  intro s s' hs
  unfold renderArgument
  rw [outcome_bind, outcome_argument?]
  cases harg : env.arguments id with
  | none => exact .ok rfl (hs.recordAbsence id)
  | some v =>
    have hshown : ∃ text, v.shown? = some text := by
      cases v with
      | handler f => exact absurd harg (plain id f)
      | _ => exact ⟨_, rfl⟩
    obtain ⟨text, htext⟩ := hshown
    simp only [htext, outcome_bind, outcome_require_some, outcome_pure]
    exact .ok (markup_escaped text) hs

/-- Without handlers among its arguments, an environment is linked to itself by the markup
    of fragments, whatever the absences. -/
theorem linked_markup (plain : ∀ id f, env.arguments id ≠ some (.handler f)) :
    env.Linked SameTags SameMarkup (fun _ => True) env where
  localizer := rfl
  arguments := env.argumentsAlike_refl
  absence := fun id _ _ _ hs => hs.recordAbsence id
  tag := fun t _ => lockstep_tagHandler plain t
  fragments := SameMarkup.compatible

/-- **Lockstep**: without handlers among the arguments, a template and the template
    with its placeholders blanked run side by side to the same markup. -/
theorem lockstep_blank (plain : ∀ id f, env.arguments id ≠ some (.handler f)) (t : Template) :
    Lockstep SameTags SameMarkup (t.render env) ((t.mapLeaves argumentBlanked).render env) := by
  have linked := linked_markup plain
  refine lockstep_mapLeaves linked ?_ (t.tagsIn_of_forall fun _ => trivial)
  intro leaf hleaf h
  cases leaf with
  | argument id => exact lockstep_argument plain id
  -- the other leaves stay
  | _ => exact lockstep_leaf linked hleaf h

/-- **Argument text never becomes markup.** Take any pattern that compiles, any
    localizer and any arguments without handlers. With every placeholder blanked,
    the pattern compiles, and the two renderings fail with the same error, or
    both succeed and show the same markup characters in the same order. -/
theorem arguments_never_become_markup {p : Pattern} {t : Template} (h : compile p = .ok t)
    (env : Environment) (plain : ∀ id f, env.arguments id ≠ some (.handler f)) :
    ∃ t₀, compile p.blankArguments = .ok t₀ ∧
      match t.run env, t₀.run env with
      | .ok r, .ok r₀ => markup r.content.flatten = markup r₀.content.flatten
      | .error e, .error e₀ => e = e₀
      | _, _ => False := by
  refine ⟨t.mapLeaves argumentBlanked, ?_, ?_⟩
  · rw [compile_blankArguments, h]
    rfl
  · -- the blanked template goes in lockstep with the template, from the same start
    have hmatch := lockstep_blank plain t .start .start rfl
    rw [run_eq, run_eq]
    revert hmatch
    generalize (t.render env).outcome .start = u
    generalize ((t.mapLeaves argumentBlanked).render env).outcome .start = v
    intro hmatch
    cases hmatch with
    | ok hr _ => exact hr
    | error _ => rfl

/-- A name that tries to open a tag, inside a tag that no handler is bound to. -/
theorem hostile_name_in_plain_tag :
    let p : Pattern := [.tag "b" "" [.argument "name"]]
    let env : Environment :=
      ⟨Arguments.ofList [("name", .text "<i>")],
        ⟨"und", fun _ _ => .ok .other, fun _ _ => .ok "", fun _ _ _ => .ok ""⟩⟩
    (∀ id f, env.arguments id ≠ some (.handler f)) ∧
      ∃ t t₀ r r₀, compile p = .ok t ∧ compile p.blankArguments = .ok t₀ ∧
        t.run env = .ok r ∧ t₀.run env = .ok r₀ ∧ r.content.flatten = "<b>&lt;i&gt;</b>" ∧
        markup r.content.flatten = markup r₀.content.flatten := by
  intro p env
  have plain : ∀ id f, env.arguments id ≠ some (.handler f) := by
    intro id f harg
    have hentry : (if id = "name" then some (Value.text "<i>") else none) = some (.handler f) := by
      rw [← harg]
      exact (Table.lookup_entry id "name" (Value.text "<i>") []).symm
    split at hentry <;> cases hentry
  have hcompile : compile p = .ok (.tag "b" "" (.argument "name")) := rfl
  obtain ⟨t₀, ht₀, hsame⟩ := arguments_never_become_markup hcompile env plain
  obtain rfl : t₀ = .tag "b" "" (.literal "") := (Except.ok.inj ht₀).symm
  exact ⟨plain, _, _, _, _, hcompile, ht₀, rfl, rfl, rfl, hsame⟩

end Template

end Phrasebook
