import Phrasebook.Message
import Phrasebook.Proofs.Render.Linked
import Phrasebook.Proofs.Render.Recorded

/-! # Structure in renderings

    To be text is a property that putting together keeps. So as long as the bound handlers
    return text for text, all that is rendered is text, and they are never given anything
    else: structure comes from handlers only.
-/

namespace Phrasebook

/-! ### Fragments without structure -/

namespace Fragment

theorem closed_isText : Closed IsText where
  text := fun s => ⟨s, rfl⟩
  joined := fun _ hps => isText_concat_iff.mpr hps

end Fragment

/-! ### Where structure comes from -/

/-- **Structure comes from handlers only.** If the bound handlers return text around text
    and for tags that close themselves, as they do if there are none, then in every message
    they are given nothing else: text for a tag around children, nothing for a tag that
    closes itself. What is rendered is text, so formatting to a fragment gives the text
    that formatting to text gives. -/
theorem Message.structure_comes_from_handlers (m : Message) (args : Arguments)
    (h : args.HandlersKeep Fragment.IsText) :
    (m.template.runRecorded ⟨args, m.localizer⟩).1 = m.template.run ⟨args, m.localizer⟩ ∧
      (∀ c ∈ (m.template.runRecorded ⟨args, m.localizer⟩).2, c.Gives Fragment.IsText) ∧
      (∀ r, m.template.run ⟨args, m.localizer⟩ = .ok r → r.content.IsText) ∧
      m.formatFragment args = (m.format args).map .text := by
  have hkeep : Arguments.HandlersKeep Fragment.IsText (Environment.mk args m.localizer).arguments :=
    h
  obtain ⟨hrun, hcalls, hcontent⟩ :=
    Template.runRecorded_of_keep Fragment.closed_isText hkeep m.template
  refine ⟨hrun, hcalls, hcontent, ?_⟩
  -- formatting looks at the run, and its content is a single text
  unfold format formatFragment
  cases hresult : m.template.run ⟨args, m.localizer⟩ with
  | error e => rfl
  | ok r =>
    obtain ⟨s, hs⟩ := hcontent r hresult
    dsimp only
    split
    · rfl
    · rw [hs]
      rfl

/-- Brackets that turn structure into structure: around an argument inside a plain tag, around
    the plain tag, and for a tag that closes itself. They are only given text or nothing. -/
theorem Message.brackets_are_given_text :
    let p : Pattern :=
      [.tag "q" "" [.tag "i" "" [.tag "q" "" [.argument "name"]], .emptyTag "q" ""]]
    let brackets : Handler := fun content =>
      match content with
      | some (.parts ps) => .parts (.text "[" :: ps ++ [.text "]"])
      | some (.text s) => .text ("[" ++ s ++ "]")
      | none => .text "[]"
    let args := Arguments.ofList [("name", .text "Ann"), ("q", .handler brackets)]
    let localizer : Localizer :=
      ⟨"und", fun _ _ => .ok .other, fun _ _ => .ok "", fun _ _ _ => .ok ""⟩
    args.HandlersKeep Fragment.IsText ∧
      ∃ template, Template.compile p = .ok template ∧
        (template.runRecorded ⟨args, localizer⟩).2 =
          [⟨"q", .paired, some (.text "Ann")⟩, ⟨"q", .empty, none⟩,
            ⟨"q", .paired, some (.text "<i>[Ann]</i>[]")⟩] ∧
        Message.formatFragment ⟨template, localizer, "und", true⟩ args =
          .ok (.text "[<i>[Ann]</i>[]]") := by
  intro p brackets args localizer
  have hkeeps : args.HandlersKeep Fragment.IsText := by
    intro id f hf
    have hlookup : List.lookup id [("q", Value.handler brackets), ("name", .text "Ann")] =
        some (.handler f) := hf
    rw [Table.lookup_entry, Table.lookup_entry] at hlookup
    split at hlookup
    · cases hlookup
      constructor
      · intro q hq
        obtain ⟨s, rfl⟩ := hq
        exact ⟨_, rfl⟩
      · exact ⟨_, rfl⟩
    · split at hlookup
      · cases hlookup
      · cases hlookup
  have hformat : ∃ template, Template.compile p = .ok template ∧
      (template.runRecorded ⟨args, localizer⟩).2 =
        [⟨"q", .paired, some (.text "Ann")⟩, ⟨"q", .empty, none⟩,
          ⟨"q", .paired, some (.text "<i>[Ann]</i>[]")⟩] ∧
      Message.format ⟨template, localizer, "und", true⟩ args = .ok "[<i>[Ann]</i>[]]" :=
    ⟨_, rfl, rfl, rfl⟩
  obtain ⟨template, ht, hcalls, htext⟩ := hformat
  obtain ⟨-, -, -, hfragment⟩ :=
    structure_comes_from_handlers ⟨template, localizer, "und", true⟩ args hkeeps
  rw [htext] at hfragment
  exact ⟨hkeeps, template, ht, hcalls, hfragment⟩

/-! ### What handlers make of structure

    That handlers are given no structure can also be told without a record: what they
    would return for structure makes no difference. -/

/-- Two values are the same, or they are handlers that return the same text around text and
    for a tag that closes itself. -/
inductive Value.SameOnText : Value → Value → Prop
  | plain {v : Value} (h : v.handler? = none) : SameOnText v v
  | handler {f g : Handler}
      (around : ∀ s, (f (some (.text s))).IsText ∧ f (some (.text s)) = g (some (.text s)))
      (alone : (f none).IsText ∧ f none = g none) : SameOnText (.handler f) (.handler g)

def Fragment.OneText (p q : Fragment) : Prop :=
  p.IsText ∧ p = q

theorem Fragment.compatible_oneText : Fragment.Compatible OneText where
  text := fun s => ⟨⟨s, rfl⟩, rfl⟩
  joined := by
    intro ps qs hpq
    have hsame : ps = qs := by
      rw [← List.forall₂_eq_eq_eq]
      exact hpq.imp fun _ _ h => h.2
    have htexts : ∀ p ∈ ps, p.IsText := by
      subst hsame
      exact fun p hp => (List.forall₂_same.mp hpq p hp).1
    exact ⟨closed_isText.joined ps htexts, congrArg concat hsame⟩

/-- **What handlers make of structure makes no difference** where they return text around
    text and for tags that close themselves. -/
theorem Message.structure_makes_no_difference (m : Message) {A B : Arguments}
    (h : ∀ id, Option.Rel Value.SameOnText (A id) (B id)) :
    m.formatFragment A = m.formatFragment B := by
  have linked : Environment.Linked Eq Fragment.OneText (fun _ => True) ⟨A, m.localizer⟩
      ⟨B, m.localizer⟩ := by
    -- related arguments read the same outside tags, as they are equal or are both handlers
    refine Environment.linked_of_rel rfl h ?_ ?_ Fragment.compatible_oneText
    · intro v w hvw
      cases hvw with
      | plain _ => exact .refl v
      | handler _ _ => exact ⟨rfl, rfl, rfl⟩
    · intro v w hvw
      cases hvw with
      | plain hnone =>
        rw [hnone]
        exact .none
      | handler haround halone =>
        apply Option.Rel.some
        constructor
        · intro p q hpq
          obtain ⟨⟨s, rfl⟩, rfl⟩ := hpq
          exact haround s
        · exact halone
  have hrun : m.template.run ⟨A, m.localizer⟩ = m.template.run ⟨B, m.localizer⟩ := by
    -- equal results from equal states, so the two renderings are one
    have hlockstep := Template.lockstep linked (m.template.tagsIn_of_forall fun _ => trivial)
    have hrender : m.template.render ⟨A, m.localizer⟩ = m.template.render ⟨B, m.localizer⟩ :=
      (hlockstep.mono fun _ _ hpq => hpq.2).eq
    rw [Template.run, Template.run, hrender]
  rw [formatFragment, formatFragment, hrun]

end Phrasebook
