import Phrasebook.Message
import Phrasebook.Proofs.Render.Linked

/-! # Handlers that differ in structure

    A handler may give back one text, or parts side by side. As long as it makes the same
    text of contents with the same text, nobody who asks a message for text can tell the
    difference: not from the text, not from an error and not from the absences.

    The contents that handlers are given differ in structure in turn, down to the innermost
    tag, so the argument is one about two renderings whose fragments have the same text at
    every place of the template.
-/

namespace Phrasebook

def SameText (p q : Fragment) : Prop :=
  p.flatten = q.flatten

theorem SameText.compatible : Fragment.Compatible SameText :=
  Fragment.compatible_of_append id fun _ _ _ _ hs ht => congrArg₂ (· ++ ·) hs ht

/-! ### Interchangeable handlers -/

theorem Handler.respects_wrap {Q : Fragment → Fragment → Prop} (hQ : Fragment.Compatible Q)
    {f g : Fragment → Fragment} (h : ∀ p q, Q p q → Q (f p) (g q)) :
    Handler.Respects Q (Handler.wrap f) (Handler.wrap g) where
  around := h
  alone := h _ _ (hQ.text "")

/-- One text put together from the text of the content, and the content as a part between
    two others, are the same in text. -/
theorem Handler.respects_text_or_parts (before after : String) :
    Handler.Respects SameText
      (Handler.wrap fun content => .text (before ++ content.flatten ++ after))
      (Handler.wrap fun content => .parts [.text before, content, .text after]) := by
  refine respects_wrap SameText.compatible ?_
  intro p q hpq
  have hpq : p.flatten = q.flatten := hpq
  show before ++ p.flatten ++ after = before ++ (q.flatten ++ (after ++ ""))
  rw [hpq, String.append_empty, String.append_assoc]

/-- Two values are the same, or they are handlers that make the same text of contents with
    the same text. -/
inductive Value.Interchangeable : Value → Value → Prop
  | plain {v : Value} (h : v.handler? = none) : Interchangeable v v
  | handler {f g : Handler} (h : Handler.Respects SameText f g) :
      Interchangeable (.handler f) (.handler g)

/-- Arguments that are interchangeable link their environments by the text of fragments. -/
theorem Arguments.linked_of_interchangeable {A B : Arguments}
    (h : ∀ id, Option.Rel Value.Interchangeable (A id) (B id)) (localizer : Localizer) :
    Environment.Linked Eq SameText (fun _ => True) ⟨A, localizer⟩ ⟨B, localizer⟩ := by
  refine Environment.linked_of_rel rfl h ?_ ?_ SameText.compatible
  · intro v w hvw
    cases hvw with
    | plain _ => exact .refl v
    | handler _ => exact ⟨rfl, rfl, rfl⟩
  · intro v w hvw
    cases hvw with
    | plain hnone =>
      rw [hnone]
      exact .none
    | handler hrespects => exact .some hrespects

/-! ### What can be told of a rendering without its structure -/

def Rendering.textual (r : Rendering) : String × Absences :=
  (r.content.flatten, r.absences)

theorem Template.textual_of_interchangeable {A B : Arguments}
    (h : ∀ id, Option.Rel Value.Interchangeable (A id) (B id)) (localizer : Localizer)
    (t : Template) :
    (t.run ⟨A, localizer⟩).map Rendering.textual =
      (t.run ⟨B, localizer⟩).map Rendering.textual := by
  have linked := Arguments.linked_of_interchangeable h localizer
  -- both arguments are interchangeable, so the renderings run in lockstep with equal states
  have hmatch := lockstep linked (t.tagsIn_of_forall fun _ => trivial) .start .start rfl
  rw [run_eq, run_eq]
  revert hmatch
  generalize (t.render ⟨A, localizer⟩).outcome .start = u
  generalize (t.render ⟨B, localizer⟩).outcome .start = v
  intro hmatch
  cases hmatch with
  | @ok p q s _ htext hs =>
    subst hs
    have htext : p.flatten = q.flatten := htext
    simp only [Except.map, Rendering.textual, htext]
  | error _ => rfl

/-- Formatting looks only at the text of a rendering and at its absences. -/
theorem Message.format_eq_textual (m : Message) (args : Arguments) :
    m.format args =
      match (m.template.run ⟨args, m.localizer⟩).map Rendering.textual with
      | .error e => .error (.render e)
      | .ok (text, absences) =>
        if m.strict && !absences.isEmpty then .error (.missingArguments absences.distinct)
        else .ok text := by
  rw [format, formatFragment]
  cases m.template.run ⟨args, m.localizer⟩ with
  | error e => rfl
  | ok r =>
    show Except.map Fragment.flatten (if m.strict && !r.absences.isEmpty then _ else _) =
      if m.strict && !r.absences.isEmpty then _ else _
    split <;> rfl

/-- **The structure of what handlers return is invisible to formatting.** With arguments that
    differ only in handlers which make the same text of contents with the same text, every
    message, strict or not, is formatted to the same text or fails with the same error, and
    the same absences are recorded. -/
theorem Message.handler_structure_is_invisible (m : Message) {A B : Arguments}
    (h : ∀ id, Option.Rel Value.Interchangeable (A id) (B id)) :
    m.format A = m.format B ∧
      (m.template.run ⟨A, m.localizer⟩).map Rendering.absences =
        (m.template.run ⟨B, m.localizer⟩).map Rendering.absences := by
  have hsame := Template.textual_of_interchangeable h m.localizer m.template
  constructor
  · rw [format_eq_textual, format_eq_textual, hsame]
  · -- the absences do not depend on the text, so they can be forgotten together
    have hforget : ∀ x : Except RenderError Rendering,
        x.map Rendering.absences = (x.map Rendering.textual).map Prod.snd := by
      intro x
      cases x <;> rfl
    rw [hforget, hforget, hsame]

/-- Brackets around the text of the content, or as parts beside it: inside a plain tag,
    around themselves and around nothing, with an argument absent in a strict message and
    in one that is not. -/
theorem Message.brackets_as_text_or_parts :
    let p : Pattern :=
      [.tag "q" "" [.tag "i" "" [.tag "q" "" [.argument "name"]], .emptyTag "q" ""],
        .argument "sign"]
    let whole : Handler := Handler.wrap fun content => .text ("[" ++ content.flatten ++ "]")
    let beside : Handler := Handler.wrap fun content => .parts [.text "[", content, .text "]"]
    let arguments (h : Handler) := Arguments.ofList [("name", .text "Ann"), ("q", .handler h)]
    let localizer : Localizer :=
      ⟨"und", fun _ _ => .ok .other, fun _ _ => .ok "", fun _ _ _ => .ok ""⟩
    (∀ id, Option.Rel Value.Interchangeable (arguments whole id) (arguments beside id)) ∧
      ∃ template, Template.compile p = .ok template ∧
        Message.format ⟨template, localizer, "und", false⟩ (arguments beside) =
          .ok "[<i>[Ann]</i>[]]" ∧
        Message.format ⟨template, localizer, "und", true⟩ (arguments beside) =
          .error (.missingArguments ["sign"]) := by
  intro p whole beside arguments localizer
  have hrespects : Handler.Respects SameText whole beside := Handler.respects_text_or_parts "[" "]"
  have hargs : ∀ id,
      Option.Rel Value.Interchangeable (arguments whole id) (arguments beside id) := by
    intro id
    show Option.Rel _ (List.lookup id [("q", _), ("name", _)])
      (List.lookup id [("q", _), ("name", _)])
    simp only [Table.lookup_entry]
    split
    · exact .some (.handler hrespects)
    · split
      · exact .some (.plain rfl)
      · exact .none
  have hcompile : ∃ template, Template.compile p = .ok template ∧
      Message.format ⟨template, localizer, "und", false⟩ (arguments whole) =
        .ok "[<i>[Ann]</i>[]]" ∧
      Message.format ⟨template, localizer, "und", true⟩ (arguments whole) =
        .error (.missingArguments ["sign"]) := ⟨_, rfl, rfl, rfl⟩
  obtain ⟨template, ht, hlax, hstrict⟩ := hcompile
  have hsame := fun strict =>
    (handler_structure_is_invisible ⟨template, localizer, "und", strict⟩ hargs).1
  exact ⟨hargs, template, ht, (hsame false).symm.trans hlax, (hsame true).symm.trans hstrict⟩

end Phrasebook
