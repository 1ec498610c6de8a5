import Phrasebook.Proofs.Render.Growth

/-! # All that a rendering changes

    Whether it succeeds or fails, a rendering leaves what its state holds as it is and only
    adds to it: ids of absent arguments, and plain tags under names that are new, that no
    argument is bound to, and that tags in the template have. What it adds, like its
    result, does not depend on the absences recorded before.

    That names are new and are added once is an invariant of the state alone. An invariant
    of whole renderings is what its two steps keep, so it is proved for these.
-/

namespace Phrasebook

open RenderM

/-! ### Invariants of renderings -/

section
variable {env : Environment} {K : String → Prop} {P : CallState → Prop}

/-- The handler of a tag keeps an invariant that remembering its plain tag keeps. -/
theorem lockstep_tagHandler_of_invariant {t : PlainTag}
    (htag : env.arguments t.id = none → ∀ s, P s → P (s.plainTag t).2) :
    Lockstep (fun s s' => s = s' ∧ P s) (Handler.Respects Eq) (tagHandler env t)
      (tagHandler env t) := by
  rintro s s' ⟨rfl, hs⟩
  rw [outcome_tagHandler]
  cases harg : env.arguments t.id with
  | some v =>
    have hrequire : Lockstep (fun s s' => s = s' ∧ P s) Eq
        (RenderM.require t.id .handler v.handler?) (RenderM.require t.id .handler v.handler?) :=
      Lockstep.require t.id .handler v.handler?
    exact hrequire.mono (fun f _ hf => hf ▸ f.respects_eq) s s ⟨rfl, hs⟩
  | none => exact .ok (Handler.respects_eq _) ⟨rfl, htag harg s hs⟩

/-- **Invariants of renderings**: a rendering keeps what recording an absence and
    remembering a plain tag keep, whether it succeeds or fails. -/
theorem Template.invariant_of_steps
    (habsence : ∀ id, env.arguments id = none → ∀ s, P s → P (s.recordAbsence id))
    (htag : ∀ t : PlainTag, K t.id → env.arguments t.id = none → ∀ s, P s → P (s.plainTag t).2)
    {t : Template} (h : t.TagsIn K) {s : CallState} (hs : P s) :
    P ((t.render env).outcome s).2 := by
  -- the rendering goes side by side with itself, so that only the invariant is carried along
  have linked : env.Linked (fun s s' => s = s' ∧ P s) Eq K env :=
    { localizer := rfl
      arguments := env.argumentsAlike_refl
      absence := by
        rintro id habsent s s' ⟨rfl, hs⟩
        exact ⟨rfl, habsence id habsent s hs⟩
      tag := fun t ht => lockstep_tagHandler_of_invariant (htag t ht)
      fragments := Fragment.compatible_eq }
  have hmatch := lockstep linked h s s ⟨rfl, hs⟩
  revert hmatch
  generalize (t.render env).outcome s = u
  intro hmatch
  cases hmatch with
  | ok _ hs => exact hs.2
  | error hs => exact hs.2

end

/-! ### New names -/

/-- The plain tags that a state remembers are known ones and, behind them, some under names
    that are new, each name once. -/
def CallState.OnlyNewNames (known : List (String × PlainTag)) (s : CallState) : Prop :=
  ∃ tags, s.plainTags = known ++ tags ∧ (tags.map Prod.fst).Nodup ∧
    ∀ b ∈ tags, known.lookup b.1 = none

theorem name_not_mem_of_lookup {tags : List (String × PlainTag)} {id : String}
    (h : tags.lookup id = none) : id ∉ tags.map Prod.fst := by
  intro hmem
  obtain ⟨b, hb, rfl⟩ := List.mem_map.mp hmem
  have hne := List.lookup_eq_none_iff.mp h b hb
  simp at hne

theorem CallState.OnlyNewNames.plainTag {known : List (String × PlainTag)} {s : CallState}
    (h : s.OnlyNewNames known) (t : PlainTag) : (s.plainTag t).2.OnlyNewNames known := by
  obtain ⟨tags, htags, hnodup, hnew⟩ := h
  unfold CallState.plainTag
  cases hlookup : s.plainTags.lookup t.id with
  | some first => exact ⟨tags, htags, hnodup, hnew⟩
  | none =>
    -- the name is neither known nor among those that were added
    rw [htags, List.lookup_append, Option.or_eq_none_iff] at hlookup
    obtain ⟨hknown, hadded⟩ := hlookup
    refine ⟨tags ++ [(t.id, t)], ?_, ?_, ?_⟩
    · show s.plainTags ++ [(t.id, t)] = known ++ (tags ++ [(t.id, t)])
      rw [htags, List.append_assoc]
    · rw [List.map_append, List.map_singleton]
      refine List.nodup_append.mpr ⟨hnodup, List.pairwise_singleton _ _, ?_⟩
      rintro id hid id' hid' rfl
      rw [List.mem_singleton.mp hid'] at hid
      exact name_not_mem_of_lookup hadded hid
    · intro b hb
      rcases List.mem_append.mp hb with hb | hb
      · exact hnew b hb
      · rw [List.mem_singleton.mp hb]
        exact hknown

/-- The plain tags that a rendering adds have new names, each of them once. -/
theorem Template.onlyNewNames (t : Template) (env : Environment) (s : CallState) :
    ((t.render env).outcome s).2.OnlyNewNames s.plainTags := by
  have hstart : s.OnlyNewNames s.plainTags := ⟨[], by simp, List.nodup_nil, by simp⟩
  have hall : t.TagsIn fun _ => True := t.tagsIn_of_forall fun _ => trivial
  exact invariant_of_steps (fun _ _ _ hs => hs) (fun t _ _ _ hs => hs.plainTag t) hall hstart

/-! ### What is added -/

/-- What is added to a state can be told from the result. -/
theorem CallState.extend_inj {s : CallState} {ids ids' : List String}
    {tags tags' : List (String × PlainTag)} (h : s.extend ids tags = s.extend ids' tags') :
    ids = ids' ∧ tags = tags' := by
  obtain ⟨habsences, htags⟩ := CallState.mk.inj h
  exact ⟨List.append_cancel_left (Absences.mk.inj habsences), List.append_cancel_left htags⟩

/-- What a rendering gives and adds does not depend on the absences recorded before. -/
theorem Template.exists_additions (t : Template) (env : Environment)
    (known : List (String × PlainTag)) :
    ∃ result ids tags,
      (∀ absences : Absences, (t.render env).outcome ⟨absences, known⟩ =
        (result, CallState.extend ⟨absences, known⟩ ids tags)) ∧
      (∀ id ∈ ids, env.arguments id = none) ∧
      ∀ b ∈ tags, env.arguments b.1 = none ∧ t.HasTag b.1 := by
  -- take the names of the tags in the template itself as the kind of names
  have hnames : t.TagsIn fun id => t.HasTag id := tagsIn_of_hasTag fun _ hid => hid
  rcases houtcome : (t.render env).outcome ⟨.empty, known⟩ with ⟨result, s⟩
  -- side by side with the rendering from the state without absences
  have hadded : ∀ absences : Absences, ∃ s',
      (t.render env).outcome ⟨absences, known⟩ = (result, s') ∧
        Grown env (fun id => t.HasTag id) ⟨absences, known⟩ ⟨.empty, known⟩ s' s := by
    intro absences
    have hlockstep : Lockstep (Grown env (fun id => t.HasTag id) ⟨absences, known⟩ ⟨.empty, known⟩)
        Eq (t.render env) (t.render env) := lockstep_grown hnames fun _ _ _ => rfl
    have hmatch := hlockstep ⟨absences, known⟩ ⟨.empty, known⟩ .refl
    rw [houtcome] at hmatch
    revert hmatch
    generalize (t.render env).outcome ⟨absences, known⟩ = u
    intro hmatch
    cases hmatch with
    | ok hr hs => exact ⟨_, by rw [hr], hs⟩
    | error hs => exact ⟨_, rfl, hs⟩
  -- what is added is read off the rendering from the state without absences
  obtain ⟨-, -, ids, tags, -, hs, hids, htags⟩ := hadded .empty
  refine ⟨result, ids, tags, ?_, hids, htags⟩
  intro absences
  obtain ⟨s', hs', ids', tags', rfl, hsame, -, -⟩ := hadded absences
  obtain ⟨rfl, rfl⟩ := CallState.extend_inj (hs.symm.trans hsame)
  exact hs'

/-- **A rendering only adds to its state.** Whether it succeeds or fails, the absences
    recorded before stay and absent ids follow them; the plain tags known before stay, and
    under each of their names the same one is found. The plain tags that follow them have
    names that are new, that are not bound, and that tags in the template have, each name
    once. The result and all that is added are the same whatever absences were recorded
    before. -/
theorem Template.rendering_only_adds (t : Template) (env : Environment)
    (known : List (String × PlainTag)) :
    ∃ result ids tags,
      (∀ absences : Absences, (t.render env).outcome ⟨absences, known⟩ =
        (result, ⟨⟨absences.ids ++ ids⟩, known ++ tags⟩)) ∧
      (∀ id ∈ ids, env.arguments id = none) ∧
      (∀ id first, known.lookup id = some first → (known ++ tags).lookup id = some first) ∧
      (∀ b ∈ tags, known.lookup b.1 = none ∧ env.arguments b.1 = none ∧ t.HasTag b.1) ∧
      (tags.map Prod.fst).Nodup := by
  obtain ⟨result, ids, tags, houtcome, hids, htags⟩ := t.exists_additions env known
  have hnames := t.onlyNewNames env ⟨.empty, known⟩
  rw [houtcome] at hnames
  -- the same rendering seen in two ways: its additions, and that their names are new
  obtain ⟨tags', hsame, hnodup, hnew⟩ := hnames
  obtain rfl : tags = tags' := List.append_cancel_left hsame
  refine ⟨result, ids, tags, houtcome, hids, ?_, ?_, hnodup⟩
  · intro id first h
    rw [List.lookup_append, h, Option.some_or]
  · intro b hb
    exact ⟨hnew b hb, htags b hb⟩

end Phrasebook
