import Phrasebook.Proofs.Locale.SameNumber
import Phrasebook.Proofs.Render.Direct
import Phrasebook.Proofs.Render.Numerals

/-! # Binary numbers given as text

    The text of a binary number reads back as the number, unless it is the text of an
    integer of 64 bits: it then counts as that integer. All exact keys and all places
    that show a text treat the two alike. Where the number less an offset is written or
    classified, they are alike as long as the two are one number less that offset.
-/

namespace Phrasebook

open Text

/-! ### The text of a binary number -/

namespace Binary64

/-- The text of a number with digits is that of a decimal, the others have words. -/
theorem text_cases (x : Binary64) :
    (∃ d : Decimal, x.text.toList = d.chars) ∨ x = nan ∨ ∃ negative, x = infinity negative := by
  cases x with
  | nan => exact Or.inr (Or.inl rfl)
  | infinity negative => exact Or.inr (Or.inr ⟨negative, rfl⟩)
  | finite negative m s hcanonical =>
    left
    obtain ⟨d, hd⟩ := exists_shortest? .upward (x := finite negative m s hcanonical) rfl
    have htext : (finite negative m s hcanonical).text = d.text :=
      Quantity.text_of_decimal? (x := finite negative m s hcanonical) hd
    exact ⟨d, by rw [htext, Decimal.text, String.toList_ofList]⟩

/-- There is nothing to trim off the text of a number. -/
theorem trimChars_text (x : Binary64) : trimChars x.text.toList = x.text.toList := by
  rcases x.text_cases with ⟨d, hd⟩ | rfl | ⟨negative, rfl⟩
  · rw [hd, d.trimChars_chars]
  · decide
  · cases negative <;> decide

/-- The text of a number is no moment. -/
theorem ofRfc3339Chars?_text (x : Binary64) : Moment.ofRfc3339Chars? x.text.toList = none := by
  refine Moment.ofRfc3339Chars?_of_not_mem ?_
  rcases x.text_cases with ⟨d, hd⟩ | rfl | ⟨negative, rfl⟩
  · rw [hd]
    exact d.minus_not_mem_drop_chars 3
  · decide
  · cases negative <;> decide

/-- A number whose text is that of an integer is the number nearest to the integer, or a
    zero of either sign. -/
theorem eq_ofInt_of_text {x : Binary64} {n : Int64} (h : int64? x.text.toList = some n) :
    x = .ofInt n.toInt ∨ x.IsZero ∧ n = 0 := by
  have hread := x.ofChars?_text
  -- the text is digits, which are read in two ways, or one of the words
  rcases x.text_cases with ⟨d, hd⟩ | rfl | ⟨negative, rfl⟩
  · rw [hd] at h hread
    obtain ⟨hscale, hvalue⟩ := d.of_int64?_chars h
    obtain ⟨negative, c, scale⟩ := d
    obtain rfl : scale = 0 := hscale
    by_cases hc : c = 0
    · -- without digits there is nothing but the sign
      right
      subst hc
      have hzero : x = zero negative := by
        rw [ofChars?, Decimal.ofChars?_chars] at hread
        exact (Option.some.inj hread).symm
      refine ⟨⟨negative, hzero⟩, ?_⟩
      rw [← Int64.toInt_inj, Int64.toInt_zero, ← hvalue]
      cases negative <;> rfl
    · -- the sign and the digits are those of the integer
      left
      rw [Decimal.eq_ofInt hc hvalue, Decimal.chars_ofInt, ofChars?_integerChars] at hread
      exact (Option.some.inj hread).symm
  · cases h
  · cases negative <;> cases h

end Binary64

/-! ### Values that are read as different quantities -/

/-- Environments that differ in one argument, which is read alike but for the quantity
    that it is. The two quantities equal the same exact keys. -/
structure Environment.Requantified (env env' : Environment) (id : String) (q r : Quantity) :
    Prop where
  localizer : env.localizer = env'.localizer
  others : ∀ id', id' ≠ id → env.arguments id' = env'.arguments id'
  value : ∃ v w, env.arguments id = some v ∧ env'.arguments id = some w ∧
    v.quantity? = some q ∧ w.quantity? = some r ∧ v.shown? = w.shown? ∧
    v.readMoment? = w.readMoment? ∧ v.handler? = w.handler?
  keys : ∀ key, KeyEquals q.toBinary64 key ↔ KeyEquals r.toBinary64 key

/-- What an element takes off an argument that it reads as a number. -/
def Element.takenOff? (id : String) : Element → Option Int64
  | .number id' offset _ => if id' = id then some offset else none
  | .plural id' _ offset _ => if id' = id then some offset else none
  | _ => none

theorem PluralChoice.among_congr {keys : List String} {x y : Binary64}
    (h : ∀ key, KeyEquals x key ↔ KeyEquals y key) : among keys x = among keys y := by
  unfold among
  simp only [h]

namespace Environment.Requantified

variable {env env' : Environment} {id : String} {q r : Quantity}

/-- Each argument is absent in both environments, or is read alike in both. -/
theorem arguments (h : env.Requantified env' id q r) (id' : String) :
    env.arguments id' = none ∧ env'.arguments id' = none ∨
      ∃ v w, env.arguments id' = some v ∧ env'.arguments id' = some w ∧
        v.shown? = w.shown? ∧ v.readMoment? = w.readMoment? ∧ v.handler? = w.handler? := by
  by_cases hid : id' = id
  · subst hid
    obtain ⟨v, w, hv, hw, -, -, hshown, hmoment, hhandler⟩ := h.value
    exact Or.inr ⟨v, w, hv, hw, hshown, hmoment, hhandler⟩
  · rw [h.others id' hid]
    cases env'.arguments id' with
    | none => exact Or.inl ⟨rfl, rfl⟩
    | some v => exact Or.inr ⟨v, v, rfl, rfl, rfl, rfl, rfl⟩

theorem argument?_bind {α : Type} (h : env.Requantified env' id q r) (id' : String)
    (x : RenderM α) :
    (RenderM.argument? env id' >>= fun _ => x) = RenderM.argument? env' id' >>= fun _ => x := by
  unfold RenderM.argument?
  rcases h.arguments id' with ⟨hv, hw⟩ | ⟨v, w, hv, hw, -⟩
  · rw [hv, hw]
  · rw [hv, hw]
    rfl

theorem renderArgument (h : env.Requantified env' id q r) (id' : String) :
    Template.renderArgument env id' = Template.renderArgument env' id' := by
  unfold Template.renderArgument RenderM.argument?
  rcases h.arguments id' with ⟨hv, hw⟩ | ⟨v, w, hv, hw, hshown, -⟩
  · rw [hv, hw]
  · simp only [hv, hw, pure_bind, hshown]

theorem renderMoment (h : env.Requantified env' id q r) (id' : String) (kind : TemporalKind)
    (style : TemporalStyle) :
    Template.renderMoment env id' kind style = Template.renderMoment env' id' kind style := by
  unfold Template.renderMoment RenderM.argument?
  rcases h.arguments id' with ⟨hv, hw⟩ | ⟨v, w, hv, hw, -, hmoment, -⟩
  · rw [hv, hw, h.localizer]
  · simp only [hv, hw, pure_bind, hmoment, h.localizer]

theorem tagHandler (h : env.Requantified env' id q r) (t : PlainTag) :
    RenderM.tagHandler env t = RenderM.tagHandler env' t := by
  unfold RenderM.tagHandler
  rcases h.arguments t.id with ⟨hv, hw⟩ | ⟨v, w, hv, hw, -, -, hhandler⟩
  · rw [hv, hw]
  · simp only [hv, hw, hhandler]

theorem selectKey (h : env.Requantified env' id q r) (id' : String) (keys : List String) :
    env.selectKey id' keys = env'.selectKey id' keys := by
  unfold Environment.selectKey
  rcases h.arguments id' with ⟨hv, hw⟩ | ⟨v, w, hv, hw, hshown, -⟩
  · rw [hv, hw]
  · simp only [hv, hw, hshown]

theorem renderNumber (h : env.Requantified env' id q r) {id' : String} {offset : Int64}
    (halike : id' = id → env.localizer.AnswersAlike (q.minus offset) (r.minus offset))
    (style : NumberStyle) :
    Template.renderNumber env id' offset style = Template.renderNumber env' id' offset style := by
  unfold Template.renderNumber RenderM.argument?
  -- only where the number is taken from the id in question does the localizer see two
  -- quantities
  by_cases hid : id' = id
  · obtain ⟨v, w, hv, hw, hq, hr, -⟩ := h.value
    have hnumber := (halike hid).number style
    rw [h.localizer] at hnumber
    simp only [hid, hv, hw, pure_bind, hq, hr, RenderM.require, h.localizer, hnumber]
  · rw [h.others id' hid, h.localizer]

theorem pluralKey (h : env.Requantified env' id q r) {id' : String} {offset : Int64}
    (halike : id' = id → env.localizer.AnswersAlike (q.minus offset) (r.minus offset))
    (kind : PluralKind) (keys : List String) :
    env.pluralKey id' kind offset keys = env'.pluralKey id' kind offset keys := by
  unfold Environment.pluralKey
  -- the keys that equal the number are the same, so only the category can differ
  by_cases hid : id' = id
  · obtain ⟨v, w, hv, hw, hq, hr, -⟩ := h.value
    have hcategory := (halike hid).category kind
    rw [h.localizer] at hcategory
    simp only [hid, hv, hw, hq, hr, PluralChoice.among_congr h.keys, h.localizer, hcategory]
  · rw [h.others id' hid, h.localizer]

end Environment.Requantified

section
variable {env env' : Environment} {id : String} {q r : Quantity}

theorem Pattern.renderEach_congr {c : Option PluralContext} {p : Pattern}
    (h : ∀ e ∈ p, e.renderIn env c = e.renderIn env' c) :
    renderEach env c p = renderEach env' c p := by
  induction p with
  | nil => simp only [renderEach]
  | cons e p ih =>
    obtain ⟨hhead, hrest⟩ := List.forall_mem_cons.mp h
    simp only [renderEach, hhead, ih hrest]

theorem Branches.renderUnder_congr {c : Option PluralContext} {bs : Branches}
    (h : ∀ b ∈ bs, ∀ e ∈ b.2, e.renderIn env c = e.renderIn env' c) (key : String) :
    renderUnder env c key bs = renderUnder env' c key bs := by
  induction bs with
  | nil => simp only [renderUnder]
  | cons b bs ih =>
    obtain ⟨k, es⟩ := b
    obtain ⟨hhead, hrest⟩ := List.forall_mem_cons.mp h
    simp only [renderUnder, Pattern.renderEach_congr hhead, ih hrest]

/-- An element renders alike if the localizer answers alike wherever the element, one
    inside it or the plural around it takes something off the argument. -/
theorem Element.renderIn_congr (h : env.Requantified env' id q r) (e : Element) :
    ∀ c : Option PluralContext,
      (∀ around, c = some around → around.id = id →
        env.localizer.AnswersAlike (q.minus around.offset) (r.minus around.offset)) →
      Pattern.Throughout (fun e => ∀ offset, e.takenOff? id = some offset →
        env.localizer.AnswersAlike (q.minus offset) (r.minus offset)) e →
      e.renderIn env c = e.renderIn env' c := by
  -- induction over the element; the context tells what a `#` takes off
  induction e using Element.induct with
  | literal text => intro c _ _; simp only [renderIn]
  | argument id' =>
    intro c _ _
    simp only [renderIn, h.renderArgument]
  | number id' offset style =>
    intro c _ hthroughout
    simp only [renderIn]
    exact h.renderNumber (fun hid => hthroughout.self offset (if_pos hid)) style
  | moment id' kind style =>
    intro c _ _
    simp only [renderIn, h.renderMoment]
  | emptyTag id' attributes =>
    intro c _ _
    simp only [renderIn, h.tagHandler]
  | pound =>
    -- a placeholder takes off what the plural around it does
    intro c hcontext _
    cases c with
    | none => simp only [renderIn]
    | some around =>
      simp only [renderIn]
      exact h.renderNumber (fun hid => hcontext around rfl hid) .plain
  | plural id' kind offset bs ih =>
    intro c _ hthroughout
    have halike : id' = id → env.localizer.AnswersAlike (q.minus offset) (r.minus offset) :=
      fun hid => hthroughout.self offset (if_pos hid)
    -- inside, the plural is the one around
    have hbranches : ∀ b ∈ bs, ∀ e ∈ b.2,
        e.renderIn env (some ⟨id', offset⟩) = e.renderIn env' (some ⟨id', offset⟩) := by
      intro b hb e he
      refine ih b hb e he _ ?_ (Pattern.everywhere_iff.mp (hthroughout.branches b hb) e he)
      intro around haround hid
      obtain rfl := Option.some.inj haround
      exact halike hid
    simp only [renderIn, h.pluralKey halike, Branches.renderUnder_congr hbranches]
    exact h.argument?_bind id' _
  | select id' bs ih =>
    intro c hcontext hthroughout
    have hbranches : ∀ b ∈ bs, ∀ e ∈ b.2, e.renderIn env c = e.renderIn env' c := fun b hb e he =>
      ih b hb e he c hcontext (Pattern.everywhere_iff.mp (hthroughout.branches b hb) e he)
    simp only [renderIn, h.selectKey, Branches.renderUnder_congr hbranches]
    exact h.argument?_bind id' _
  | tag id' attributes es ih =>
    intro c hcontext hthroughout
    have hchildren : ∀ e ∈ es, e.renderIn env c = e.renderIn env' c := fun e he =>
      ih e he c hcontext (Pattern.everywhere_iff.mp hthroughout.children e he)
    simp only [renderIn, h.tagHandler, Pattern.renderEach_congr hchildren]

/-- A template renders alike if the localizer answers alike wherever its pattern takes
    something off the argument. -/
theorem Template.run_requantified (h : env.Requantified env' id q r) {p : Pattern}
    (ordered : p.Ordered) {t : Template} (ht : compile p = .ok t)
    (halike : p.Everywhere fun e => ∀ offset, e.takenOff? id = some offset →
      env.localizer.AnswersAlike (q.minus offset) (r.minus offset)) :
    t.run env = t.run env' := by
  have heach : ∀ e ∈ p, e.renderIn env none = e.renderIn env' none := fun e he =>
    e.renderIn_congr h none (fun _ hnone => nomatch hnone) (Pattern.everywhere_iff.mp halike e he)
  rw [run_eq, run_eq, render_eq_of_compile ordered ht, render_eq_of_compile ordered ht,
    Pattern.renderIn, Pattern.renderIn, Pattern.renderEach_congr heach]

end

/-! ### Spelling binary numbers out -/

def Value.realSpelled : Value → Value
  | real x => text x.text
  | v => v

theorem Value.quantity?_text (x : Binary64) :
    quantity? (.text x.text) =
      match int64? x.text.toList with
      | some n => some (.integer n)
      | none => some (.real x) := by
  unfold quantity?
  cases hread : int64? x.text.toList with
  | none => simp only [x.trimChars_text, x.ofChars?_text, Option.map_some, hread]
  | some n => simp only [x.trimChars_text, hread]

theorem Value.readMoment?_text (x : Binary64) : readMoment? (.text x.text) = none := by
  rw [readMoment?, x.trimChars_text, x.ofRfc3339Chars?_text]

/-- A text that is not that of an integer has the readings of the number. -/
theorem Value.sameReadings_realText {x : Binary64} (h : int64? x.text.toList = none) :
    SameReadings (.text x.text) (.real x) where
  shown := rfl
  quantity := by
    rw [quantity?_text, h]
    rfl
  moment := readMoment?_text x
  handler := rfl

/-- A number equals the same exact keys as the integer that its text is read as. -/
theorem keyEquals_of_text {x : Binary64} {n : Int64} (h : int64? x.text.toList = some n)
    (key : String) : KeyEquals x key ↔ KeyEquals (.ofInt n.toInt) key := by
  rcases Binary64.eq_ofInt_of_text h with rfl | ⟨hx, rfl⟩
  · exact Iff.rfl
  · have hzero : (Binary64.ofInt (0 : Int64).toInt).IsZero :=
      Binary64.isZero_ofInt.mpr Int64.toInt_zero
    unfold KeyEquals
    simp only [Binary64.equals_of_isZero hx, Binary64.equals_of_isZero hzero]

/-- The text of a binary number that is read as an integer differs from the number in
    nothing but the quantity. -/
theorem Environment.requantified_respell {arguments : Arguments} {id : String} {x : Binary64}
    {n : Int64} (hbound : arguments id = some (.real x)) (h : int64? x.text.toList = some n)
    (localizer : Localizer) :
    Requantified ⟨arguments, localizer⟩
      ⟨arguments.respell Value.realSpelled (· = id), localizer⟩ id (.real x) (.integer n) where
  localizer := rfl
  others := by
    intro id' hid
    show arguments id' = arguments.respell Value.realSpelled (· = id) id'
    rw [Arguments.respell, if_neg (by simpa using hid)]
  value := by
    refine ⟨.real x, .text x.text, hbound, ?_, rfl, ?_, rfl, (Value.readMoment?_text x).symm, rfl⟩
    · show arguments.respell Value.realSpelled (· = id) id = _
      rw [Arguments.respell, if_pos (by simp), hbound]
      rfl
    · rw [Value.quantity?_text, h]
  keys := keyEquals_of_text h

namespace Template

/-- **Binary numbers and their texts.** Giving a binary number as its text changes nothing
    under any localizer, unless the text is that of an integer of 64 bits. It then counts
    as that integer. This changes nothing either, under any localizer that goes by the
    number and so under the standard ones, as long as the number and the integer are one
    number less each offset that the pattern takes off the argument. Minus zero aside they
    are, where the integer, the offset and their difference are below `2^53`. -/
theorem real_numbers_and_their_texts {p : Pattern} (ordered : p.Ordered) {t : Template}
    (ht : compile p = .ok t) {arguments : Arguments} {id : String} {x : Binary64}
    (hbound : arguments id = some (.real x)) :
    let spelled := arguments.respell Value.realSpelled (· = id)
    (int64? x.text.toList = none →
      ∀ localizer, t.run ⟨spelled, localizer⟩ = t.run ⟨arguments, localizer⟩) ∧
    ∀ n, int64? x.text.toList = some n →
      ((p.Everywhere fun e => ∀ offset, e.takenOff? id = some offset →
          ((Quantity.real x).minus offset).Same ((Quantity.integer n).minus offset)) →
        (∀ localizer : Localizer, localizer.GoesByNumber →
          t.run ⟨spelled, localizer⟩ = t.run ⟨arguments, localizer⟩) ∧
        ∀ l : Locale, t.run ⟨spelled, l.localizer⟩ = t.run ⟨arguments, l.localizer⟩) ∧
      ∀ offset : Int64, x ≠ .zero true → n.toInt.natAbs < 2 ^ 53 → offset.toInt.natAbs < 2 ^ 53 →
        (n.toInt - offset.toInt).natAbs < 2 ^ 53 →
        ((Quantity.real x).minus offset).Same ((Quantity.integer n).minus offset) := by
  intro spelled
  refine ⟨fun hnone localizer => ?_, fun n hn => ⟨fun hsame => ?_, ?_⟩⟩
  · -- the text has all the readings of the number
    refine t.run_respell localizer fun id' v hid hv => ?_
    obtain rfl : id' = id := by simpa using hid
    obtain rfl : Value.real x = v := Option.some.inj (hbound.symm.trans hv)
    exact Value.sameReadings_realText hnone
  · have hrun : ∀ localizer : Localizer, localizer.GoesByNumber →
        t.run ⟨spelled, localizer⟩ = t.run ⟨arguments, localizer⟩ := by
      intro localizer hlocalizer
      refine (run_requantified (Environment.requantified_respell hbound hn localizer) ordered ht
        ?_).symm
      -- wherever an element takes something off, the two quantities are one number
      intro π above e hat offset hoffset
      exact hlocalizer _ _ (hsame π above e hat offset hoffset)
    exact ⟨hrun, fun l => hrun l.localizer l.localizer_goesByNumber⟩
  · -- without the minus zero the number is that of the integer
    intro offset hx hsmall hoffset hdifference
    have hvalue : x = .ofInt n.toInt := by
      rcases Binary64.eq_ofInt_of_text hn with heq | ⟨⟨negative, rfl⟩, rfl⟩
      · exact heq
      · cases negative with
        | true => exact absurd rfl hx
        | false => exact Binary64.ofInt_zero.symm
    rw [hvalue]
    exact Quantity.same_minus hsmall hoffset hdifference

/-- Five guests as a binary number and as text: the host is taken off one of the numbers
    shown, and both are written alike. -/
theorem five_guests_as_text :
    let p : Pattern :=
      [.plural "n" .cardinal 1 [("=1", [.literal "nobody"]), ("one", [.literal "a guest"]),
        ("other", [.pound, .literal " of ", .number "n" 0 .ordinal])]]
    let arguments := Arguments.ofList [("n", .real (.ofInt 5))]
    let spelled := arguments.respell Value.realSpelled (· = "n")
    p.Ordered ∧ spelled "n" = some (.text "5") ∧
      p.shown? ⟨spelled, Locale.english.localizer⟩ = some (.ok "4 of 5th") ∧
      ∃ t, compile p = .ok t ∧
        t.run ⟨spelled, Locale.english.localizer⟩ =
          t.run ⟨arguments, Locale.english.localizer⟩ := by
  intro p arguments spelled
  have ordered : p.Ordered := by
    simp +decide [p, Pattern.orderedParts_iff, Element.branches, Element.children, Table.Ascending]
  have hcompile : ∃ t, compile p = .ok t := ⟨_, rfl⟩
  obtain ⟨t, ht⟩ := hcompile
  have htext : (Binary64.ofInt 5).text = "5" := by decide +kernel
  have hread : int64? (Binary64.ofInt 5).text.toList = some 5 := by
    rw [htext]
    decide
  -- the plural takes one off, for itself and its `#`; the rank takes nothing off
  have hplace : p.Everywhere fun e => ∀ offset, e.takenOff? "n" = some offset →
      offset = 1 ∨ offset = 0 := by
    simp [p, Pattern.throughout_iff, Element.takenOff?, Element.branches, Element.children, eq_comm]
  have hbound : arguments "n" = some (.real (.ofInt 5)) := rfl
  obtain ⟨-, hinteger⟩ := real_numbers_and_their_texts ordered ht hbound
  obtain ⟨hrun, hsmall⟩ := hinteger 5 hread
  have hsame : p.Everywhere fun e => ∀ offset, e.takenOff? "n" = some offset →
      ((Quantity.real (.ofInt 5)).minus offset).Same ((Quantity.integer 5).minus offset) := by
    intro π above e hat offset hoffset
    have hne : Binary64.ofInt 5 ≠ .zero true := by decide +kernel
    rcases hplace π above e hat offset hoffset with rfl | rfl
    · exact hsmall 1 hne (by decide) (by decide) (by decide)
    · exact hsmall 0 hne (by decide) (by decide) (by decide)
  refine ⟨ordered, ?_, by decide +kernel, t, ht, (hrun hsame).2 .english⟩
  show some (Value.text (Binary64.ofInt 5).text) = _
  rw [htext]

/-- **The text of a binary number can show something else**: a minus zero loses its sign, a
    large number is the integer of its displayed digits, an offset that would be rounded
    away is taken off, and a localizer may tell an integer from a binary number. -/
theorem texts_of_real_numbers_differ :
    let bound (v : Value) : Arguments := Arguments.ofList [("x", v)]
    let english (v : Value) : Environment := ⟨bound v, Locale.english.localizer⟩
    let plain : Pattern := [.number "x" 0 .plain]
    let whole : Pattern := [.number "x" 0 .integer]
    let less : Pattern := [.plural "x" .cardinal 1 [("other", [.pound])]]
    let sort : Quantity → Except LocaleError String
      | .integer _ => .ok "integer"
      | .real _ => .ok "real"
    let telling (v : Value) : Environment :=
      ⟨bound v, ⟨"und", fun _ _ => .ok .other, fun _ => sort, fun _ _ _ => .ok ""⟩⟩
    (plain.shown? (english (.real (.zero true))) = some (.ok "-0") ∧
      plain.shown? (english (.text (Binary64.zero true).text)) = some (.ok "0")) ∧
    (whole.shown? (english (.real (.ofInt (2 ^ 60)))) =
        some (.ok "1,152,921,504,606,846,976") ∧
      whole.shown? (english (.text (Binary64.ofInt (2 ^ 60)).text)) =
        some (.ok "1,152,921,504,606,847,000")) ∧
    (less.shown? (english (.real (.ofInt 9007199254740994))) =
        some (.ok "9,007,199,254,740,992") ∧
      less.shown? (english (.text (Binary64.ofInt 9007199254740994).text)) =
        some (.ok "9,007,199,254,740,993")) ∧
    plain.shown? (telling (.real (.ofInt 3))) = some (.ok "real") ∧
      plain.shown? (telling (.text (Binary64.ofInt 3).text)) = some (.ok "integer") := by
  decide +kernel

end Template

end Phrasebook
