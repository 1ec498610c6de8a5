import Phrasebook.Proofs.Render.Direct
import Phrasebook.Proofs.Render.Growth

/-! # Patterns side by side

    Two patterns side by side compile as the two do, and render to the text of the
    one and then that of the other. The two halves share the absences and the plain
    tags of one call. Absences only pile up; a plain tag of the first half matters
    to the second only where a tag of its name stands in both.
-/

namespace Phrasebook

namespace Template

/-! ### Compiling the two halves -/

/-- Two patterns side by side compile from left to right. -/
theorem compile_append (p q : Pattern) :
    compile (p ++ q) = do
      let ts ← compileAll none p
      let us ← compileAll none q
      return ofParts (ts ++ us) := by
  -- the elements are walked one after another, so the first error ends both walks
  simp only [compile, compileAll_eq, List.mapM_append]
  cases p.mapM (compileElement none) with
  | error x => rfl
  | ok ts =>
    cases q.mapM (compileElement none) with
    | error x => rfl
    | ok us => rfl

/-- A pattern compiles exactly when all of its elements do. -/
theorem compile_eq_ok_iff {p : Pattern} {t : Template} :
    compile p = .ok t ↔ ∃ ts, compileAll none p = .ok ts ∧ ofParts ts = t :=
  map_eq_ok_iff

theorem compile_eq_error_iff {p : Pattern} {x : PatternError} :
    compile p = .error x ↔ compileAll none p = .error x :=
  map_eq_error_iff

/-! ### Rendering the two halves -/

section
variable {env : Environment}

theorem run_ofParts (ts : List Template) :
    (ofParts ts).run env =
      match (ts.mapM (render env)).outcome .start with
      | (.ok ps, s) => .ok ⟨.ofParts ps, s.absences⟩
      | (.error e, _) => .error e := by
  rw [run_eq, render_ofParts, RenderM.outcome_bind]
  rcases (ts.mapM (render env)).outcome .start with ⟨_ | ps, s⟩ <;> rfl

variable {ts : List Template} {s s₁ : CallState}

/-- Where the first half fails, both do. -/
theorem outcome_append_of_error {e : RenderError}
    (h : (ts.mapM (render env)).outcome s = (.error e, s₁)) (us : List Template) :
    ((ts ++ us).mapM (render env)).outcome s = (.error e, s₁) := by
  rw [List.mapM_append, RenderM.outcome_bind, h]

/-- The second half starts in the state that the first has reached. -/
theorem outcome_append_of_ok {ps : List Fragment}
    (h : (ts.mapM (render env)).outcome s = (.ok ps, s₁)) (us : List Template) :
    ((ts ++ us).mapM (render env)).outcome s =
      match (us.mapM (render env)).outcome s₁ with
      | (.ok qs, s₂) => (.ok (ps ++ qs), s₂)
      | (.error e, s₂) => (.error e, s₂) := by
  rw [List.mapM_append, RenderM.outcome_bind, h]
  show RenderM.outcome (us.mapM (render env) >>= fun qs => pure (ps ++ qs)) s₁ = _
  rw [RenderM.outcome_bind]
  rcases (us.mapM (render env)).outcome s₁ with ⟨_ | qs, s₂⟩ <;> rfl

/-- Templates one after another grow two states by the same, as each of them does. -/
theorem matched_mapM {K : String → Prop} (h : ∀ t ∈ ts, t.TagsIn K) {s₀ s₀' : CallState}
    (hagree : ∀ id, K id → env.arguments id = none →
      s₀.plainTags.lookup id = s₀'.plainTags.lookup id) :
    RenderM.Matched (Grown env K s₀ s₀') (List.Forall₂ Eq)
      ((ts.mapM (render env)).outcome s₀) ((ts.mapM (render env)).outcome s₀') := by
  have hlockstep : RenderM.Lockstep (Grown env K s₀ s₀') (List.Forall₂ Eq)
      (ts.mapM (render env)) (ts.mapM (render env)) :=
    .mapM (List.forall₂_same.mpr fun t ht => lockstep_grown (h t ht) hagree)
  exact hlockstep s₀ s₀' .refl

/-- From the start, plain tags are remembered only under names of tags in the
    template that no argument is bound to. -/
theorem lookup_after {K : String → Prop} (h : ∀ t ∈ ts, t.TagsIn K)
    {r : Except RenderError (List Fragment)}
    (hrun : (ts.mapM (render env)).outcome .start = (r, s)) {id : String} {first : PlainTag}
    (hfirst : s.plainTags.lookup id = some first) : K id ∧ env.arguments id = none := by
  -- a run compared with itself: what it remembers has grown out of nothing
  have hmatch : RenderM.Matched (Grown env K .start .start) (List.Forall₂ Eq)
      ((ts.mapM (render env)).outcome .start) ((ts.mapM (render env)).outcome .start) :=
    matched_mapM h fun _ _ _ => rfl
  rw [hrun] at hmatch
  have hgrown : Grown env K .start .start s s := by
    cases hmatch with
    | ok _ hs => exact hs
    | error hs => exact hs
  obtain ⟨ids, tags, rfl, _, _, htags⟩ := hgrown
  have hmem : (id, first) ∈ tags := Table.mem_of_lookup hfirst
  exact (htags _ hmem).symm

/-- **Templates side by side.** If two templates made of parts share no unbound tag
    name, all the parts together render as the first template and then the second. -/
theorem run_append {us : List Template} {K L : String → Prop} (hts : ∀ t ∈ ts, t.TagsIn K)
    (hus : ∀ t ∈ us, t.TagsIn L) (hshared : ∀ id, K id → L id → env.arguments id ≠ none) :
    match (ofParts ts).run env, (ofParts us).run env with
    | .error e, _ => (ofParts (ts ++ us)).run env = .error e
    | .ok _, .error e => (ofParts (ts ++ us)).run env = .error e
    | .ok r, .ok r' =>
      ∃ r'', (ofParts (ts ++ us)).run env = .ok r'' ∧
        r''.content.flatten = r.content.flatten ++ r'.content.flatten ∧
        r''.absences.ids = r.absences.ids ++ r'.absences.ids := by
  rw [run_ofParts, run_ofParts, run_ofParts]
  rcases hfirst : (ts.mapM (render env)).outcome .start with ⟨e | ps, s₁⟩
  · rw [outcome_append_of_error hfirst]
  · rw [outcome_append_of_ok hfirst]
    -- what the first half remembers is of no use to the second
    have hagree : ∀ id, L id → env.arguments id = none →
        s₁.plainTags.lookup id = CallState.start.plainTags.lookup id := by
      intro id hL habsent
      cases hlookup : s₁.plainTags.lookup id with
      | none => rfl
      | some first =>
        obtain ⟨hK, _⟩ := lookup_after hts hfirst hlookup
        exact absurd habsent (hshared id hK hL)
    have hmatch : RenderM.Matched (Grown env L s₁ .start) (List.Forall₂ Eq)
        ((us.mapM (render env)).outcome s₁) ((us.mapM (render env)).outcome .start) :=
      matched_mapM hus hagree
    revert hmatch
    generalize (us.mapM (render env)).outcome s₁ = joint
    generalize (us.mapM (render env)).outcome .start = alone
    intro hmatch
    cases hmatch with
    | error _ => rfl
    | @ok qs qs' s₂ s₂' hqs hgrown =>
      rw [List.forall₂_eq_eq_eq] at hqs
      subst hqs
      -- both runs of the second half have grown by the same ids and tags
      obtain ⟨ids, tags, rfl, rfl, _, _⟩ := hgrown
      refine ⟨_, rfl, ?_, rfl⟩
      simp only [Fragment.flatten_ofParts, Fragment.flattenAll_append]

end

/-- **Patterns side by side.** Two patterns side by side compile exactly when both do,
    and otherwise fail with the error of the first that does not compile. If no
    unbound tag name stands in both, they render as the first and then the second:
    they fail with the error of the first that fails, and otherwise show the texts
    and record the absences of the two, one after the other. -/
theorem rendering_is_compositional (p q : Pattern) :
    ((∃ v, compile (p ++ q) = .ok v) ↔ (∃ t, compile p = .ok t) ∧ ∃ u, compile q = .ok u) ∧
    (∀ x, compile p = .error x → compile (p ++ q) = .error x) ∧
    (∀ t x, compile p = .ok t → compile q = .error x → compile (p ++ q) = .error x) ∧
    ∀ t u v, compile p = .ok t → compile q = .ok u → compile (p ++ q) = .ok v →
      ∀ env : Environment, (∀ id, p.HasTag id → q.HasTag id → env.arguments id ≠ none) →
        match t.run env, u.run env with
        | .error e, _ => v.run env = .error e
        | .ok _, .error e => v.run env = .error e
        | .ok r, .ok r' =>
          ∃ r'', v.run env = .ok r'' ∧
            r''.content.flatten = r.content.flatten ++ r'.content.flatten ∧
            r''.absences.ids = r.absences.ids ++ r'.absences.ids := by
  rw [compile_append]
  simp only [compile_eq_ok_iff, compile_eq_error_iff]
  -- each half is known by its list of templates, and the whole by the two lists in a row
  refine ⟨?_, ?_, ?_, ?_⟩
  · rcases compileAll none p with _ | ts
    · simp [bind, Except.bind]
    · rcases compileAll none q with _ | us
      · simp [bind, Except.bind]
      · simp [bind, Except.bind, pure, Except.pure]
  · intro x hp
    rw [hp]
    rfl
  · rintro _ x ⟨ts, hts, _⟩ hq
    rw [hts, hq]
    rfl
  · rintro _ _ v ⟨ts, hts, rfl⟩ ⟨us, hus, rfl⟩ hv env hshared
    rw [hts, hus] at hv
    obtain rfl : ofParts (ts ++ us) = v := Except.ok.inj hv
    rw [compileAll_eq] at hts hus
    exact run_append (tagsIn_of_mapM hts) (tagsIn_of_mapM hus) hshared

/-- The one tag that stands in both halves has a handler, so its two uses are apart; the
    other tags are remembered under names of their own. -/
theorem handled_tag_in_both_halves :
    let p : Pattern := [.tag "b" "" [.argument "name"], .emptyTag "br" ""]
    let q : Pattern := [.tag "b" "" [.tag "i" "" [.literal "!"]], .argument "guest"]
    let stars : Handler := Handler.wrap fun content => .parts [.text "*", content, .text "*"]
    let env : Environment :=
      ⟨Arguments.ofList [("b", .handler stars)],
        ⟨"und", fun _ _ => .ok .other, fun _ _ => .ok "", fun _ _ _ => .ok ""⟩⟩
    (∀ id, p.HasTag id → q.HasTag id → env.arguments id ≠ none) ∧
      ∃ t u v r r' r'', compile p = .ok t ∧ compile q = .ok u ∧ compile (p ++ q) = .ok v ∧
        t.run env = .ok r ∧ u.run env = .ok r' ∧ v.run env = .ok r'' ∧
        r.content.flatten = "**<br />" ∧ r'.content.flatten = "*<i>!</i>*" ∧
        r''.content.flatten = r.content.flatten ++ r'.content.flatten ∧
        r''.absences.ids = r.absences.ids ++ r'.absences.ids := by
  intro p q stars env
  have hp : p.Everywhere (Element.NamedIn fun id => id = "b" ∨ id = "br") := by
    simp [p, Pattern.throughout_iff, Element.NamedIn, Element.tagName?, Element.branches,
      Element.children]
  have hq : q.Everywhere (Element.NamedIn fun id => id = "b" ∨ id = "i") := by
    simp [q, Pattern.throughout_iff, Element.NamedIn, Element.tagName?, Element.branches,
      Element.children]
  have hshared : ∀ id, p.HasTag id → q.HasTag id → env.arguments id ≠ none := by
    rintro id ⟨π, above, e, hat, hname⟩ ⟨ρ, above', e', hat', hname'⟩
    have hone := hp π above e hat id hname
    have htwo := hq ρ above' e' hat' id hname'
    obtain rfl : id = "b" := by
      rcases hone with rfl | rfl
      · rfl
      · simp at htwo
    exact Option.some_ne_none _
  have hrun : ∃ t u v r r', compile p = .ok t ∧ compile q = .ok u ∧ compile (p ++ q) = .ok v ∧
      t.run env = .ok r ∧ u.run env = .ok r' ∧
      r.content.flatten = "**<br />" ∧ r'.content.flatten = "*<i>!</i>*" :=
    ⟨_, _, _, _, _, rfl, rfl, rfl, rfl, rfl, rfl, rfl⟩
  obtain ⟨t, u, v, r, r', ht, hu, hv, hr, hr', htext, htext'⟩ := hrun
  have hjoint := (rendering_is_compositional p q).2.2.2 t u v ht hu hv env hshared
  rw [hr, hr'] at hjoint
  obtain ⟨r'', hr'', hflat, habsent⟩ := hjoint
  exact ⟨hshared, t, u, v, r, r', r'', ht, hu, hv, hr, hr', hr'', htext, htext', hflat, habsent⟩

end Template

end Phrasebook
