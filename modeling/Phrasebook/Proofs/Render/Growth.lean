import Phrasebook.Proofs.Render.Linked

/-! # What a rendering adds to its state

    A rendering adds absences and plain tags behind those that are there. What it
    adds, like its result, depends on the state only through the plain tags that
    are remembered under names of tags in the template. Two states that agree on
    these names grow by the same absences and the same plain tags.
-/

namespace Phrasebook

open RenderM

/-! ### Growing side by side -/

def CallState.extend (s : CallState) (ids : List String) (tags : List (String × PlainTag)) :
    CallState :=
  { absences := ⟨s.absences.ids ++ ids⟩, plainTags := s.plainTags ++ tags }

/-- Two states have come from two others by the same additions: ids of absent arguments,
    and plain tags under names of a given kind that no argument is bound to. -/
def Grown (env : Environment) (K : String → Prop) (s₀ s₀' s s' : CallState) : Prop :=
  ∃ ids tags, s = s₀.extend ids tags ∧ s' = s₀'.extend ids tags ∧
    (∀ id ∈ ids, env.arguments id = none) ∧ ∀ b ∈ tags, env.arguments b.1 = none ∧ K b.1

section
variable {env : Environment} {K : String → Prop} {s₀ s₀' s s' : CallState}

theorem Grown.refl : Grown env K s₀ s₀' s₀ s₀' := by
  refine ⟨[], [], ?_, ?_, by simp, by simp⟩
  · simp [CallState.extend]
  · simp [CallState.extend]

theorem Grown.recordAbsence {id : String} (habsent : env.arguments id = none)
    (h : Grown env K s₀ s₀' s s') :
    Grown env K s₀ s₀' (s.recordAbsence id) (s'.recordAbsence id) := by
  obtain ⟨ids, tags, rfl, rfl, hids, htags⟩ := h
  refine ⟨ids ++ [id], tags, ?_, ?_, ?_, htags⟩
  · simp [CallState.extend, CallState.recordAbsence, Absences.record]
  · simp [CallState.extend, CallState.recordAbsence, Absences.record]
  · intro a ha
    rcases List.mem_append.mp ha with ha | ha
    · exact hids a ha
    · rw [List.mem_singleton.mp ha]
      exact habsent

/-- States that agree on the names of a given kind give the same handler for a tag of
    such a name, and grow by the same. -/
theorem Grown.tagHandler
    (hagree : ∀ id, K id → env.arguments id = none →
      s₀.plainTags.lookup id = s₀'.plainTags.lookup id) (t : PlainTag) (ht : K t.id) :
    Lockstep (Grown env K s₀ s₀') Eq (tagHandler env t) (tagHandler env t) := by
  intro s s' hs
  rw [outcome_tagHandler, outcome_tagHandler]
  -- a bound tag leaves both states alone; an unbound one is looked up in both
  cases harg : env.arguments t.id with
  | some v => exact Lockstep.require t.id .handler v.handler? s s' hs
  | none =>
    obtain ⟨ids, tags, rfl, rfl, hids, htags⟩ := hs
    have hsame : (s₀.plainTags ++ tags).lookup t.id = (s₀'.plainTags ++ tags).lookup t.id := by
      rw [List.lookup_append, List.lookup_append, hagree t.id ht harg]
    simp only [CallState.plainTag, CallState.extend, hsame]
    cases (s₀'.plainTags ++ tags).lookup t.id with
    | some first => exact .ok rfl ⟨ids, tags, rfl, rfl, hids, htags⟩
    | none =>
      -- the tag is the first of its name on both sides
      refine .ok rfl ⟨ids, tags ++ [(t.id, t)], ?_, ?_, hids, ?_⟩
      · simp [CallState.extend]
      · simp [CallState.extend]
      · intro b hb
        rcases List.mem_append.mp hb with hb | hb
        · exact htags b hb
        · rw [List.mem_singleton.mp hb]
          exact ⟨harg, ht⟩

/-- An environment is linked to itself by states that grow by the same. -/
theorem Environment.linked_grown
    (hagree : ∀ id, K id → env.arguments id = none →
      s₀.plainTags.lookup id = s₀'.plainTags.lookup id) :
    env.Linked (Grown env K s₀ s₀') Eq K env where
  localizer := rfl
  arguments := env.argumentsAlike_refl
  absence := fun _ habsent _ _ hs => hs.recordAbsence habsent
  tag := fun t ht => (Grown.tagHandler hagree t ht).mono fun f _ hf => hf ▸ f.respects_eq
  fragments := Fragment.compatible_eq

/-- **Growth.** From two states that agree on the plain tags under the names of its
    tags, a template renders to the same result, and the states grow by the same. -/
theorem Template.lockstep_grown {t : Template} (h : t.TagsIn K)
    (hagree : ∀ id, K id → env.arguments id = none →
      s₀.plainTags.lookup id = s₀'.plainTags.lookup id) :
    Lockstep (Grown env K s₀ s₀') Eq (t.render env) (t.render env) :=
  lockstep (Environment.linked_grown hagree) h

end

end Phrasebook
