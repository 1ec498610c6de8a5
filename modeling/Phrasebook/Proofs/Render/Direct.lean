import Phrasebook.Proofs.Fragment
import Phrasebook.Proofs.Pattern.Occurrence
import Phrasebook.Proofs.Render.PluralChoice

/-! # Rendering a pattern as it stands

    A pattern can be rendered without a template: a choice looks its key up among
    the branches as they are written, and a `#` reads the plural around it. This
    is what rendering a template means. A template renders as the pattern that it
    was compiled from, whatever the shortcut for single elements and the sorting
    of branches have made of it.

    Statements that follow a rendering along a pattern are proved on this form.
-/

namespace Phrasebook

/-! ### The key of a choice -/

namespace Environment

def pluralKey (env : Environment) (id : String) (kind : PluralKind) (offset : Int64)
    (keys : List String) : Except RenderError String :=
  match env.arguments id with
  | none => .ok otherKey
  | some v =>
    match v.quantity? with
    | none => .error (.invalidArgument id .number)
    | some q =>
      match PluralChoice.among keys q.toBinary64 with
      | .settled key => .ok key
      | .byCategory keyOf =>
        match env.localizer.category kind (q.minus offset) with
        | .error e => .error (.locale e)
        | .ok c => .ok (keyOf c)

theorem pluralKey_mem (env : Environment) {id : String} {kind : PluralKind} {offset : Int64}
    {keys : List String} {key : String} (hother : otherKey ∈ keys)
    (h : env.pluralKey id kind offset keys = .ok key) : key ∈ keys := by
  unfold pluralKey at h
  -- the key is the fallback, one that is settled, or one for a category, and each is among the
  -- keys
  split at h
  · obtain rfl := Except.ok.inj h
    exact hother
  · split at h
    · cases h
    · next q _ =>
      have hwithin := PluralChoice.among_within hother q.toBinary64
      split at h
      · next settled hamong =>
        obtain rfl := Except.ok.inj h
        rw [hamong] at hwithin
        exact hwithin
      · next keyOf hamong =>
        rw [hamong] at hwithin
        split at h
        · cases h
        · next category _ =>
          obtain rfl := Except.ok.inj h
          exact hwithin category

def selectKey (env : Environment) (id : String) (keys : List String) : Except RenderError String :=
  match env.arguments id with
  | none => .ok otherKey
  | some v =>
    match v.shown? with
    | none => .error (.invalidArgument id .key)
    | some key => .ok (if key ∈ keys then key else otherKey)

end Environment

/-! ### Rendering along a pattern -/

/-- Fragments side by side; a single one stands for itself. -/
def Fragment.ofParts : List Fragment → Fragment
  | [p] => p
  | ps => .concat ps

theorem Fragment.flatten_ofParts (ps : List Fragment) : (ofParts ps).flatten = flattenAll ps := by
  rcases ps with _ | ⟨p, _ | ⟨p', ps⟩⟩
  · exact flatten_concat []
  · simp [ofParts, flattenAll]
  · exact flatten_concat _

def RenderM.ofResult {α : Type} : Except RenderError α → RenderM α
  | .ok a => pure a
  | .error e => throw e

open RenderM Template in
mutual

/-- Render an element inside a given plural, or inside none. -/
def Element.renderIn (env : Environment) (c : Option PluralContext) : Element → RenderM Fragment
  | .literal text => pure (.text text)
  | .argument id => renderArgument env id
  | .number id offset style => renderNumber env id offset style
  | .moment id kind style => renderMoment env id kind style
  | .pound =>
    match c with
    | some around => renderNumber env around.id around.offset .plain
    | none => pure .empty
  | .plural id kind offset bs => do
    let _ ← argument? env id
    let key ← ofResult (env.pluralKey id kind offset (bs.map Prod.fst))
    Branches.renderUnder env (some ⟨id, offset⟩) key bs
  | .select id bs => do
    let _ ← argument? env id
    let key ← ofResult (env.selectKey id (bs.map Prod.fst))
    Branches.renderUnder env c key bs
  | .tag id attributes es => do
    let handler ← tagHandler env ⟨id, attributes, .paired⟩
    let ps ← Pattern.renderEach env c es
    return handler (some (.ofParts ps))
  | .emptyTag id attributes => do
    let handler ← tagHandler env ⟨id, attributes, .empty⟩
    return handler none

def Pattern.renderEach (env : Environment) (c : Option PluralContext) :
    List Element → RenderM (List Fragment)
  | [] => pure []
  | e :: es => do
    let p ← e.renderIn env c
    let ps ← Pattern.renderEach env c es
    return p :: ps

def Branches.renderUnder (env : Environment) (c : Option PluralContext) (key : String) :
    List (String × List Element) → RenderM Fragment
  | [] => pure .empty
  | (k, es) :: bs =>
    if k = key then do
      let ps ← Pattern.renderEach env c es
      return .ofParts ps
    else Branches.renderUnder env c key bs

end

def Pattern.renderIn (env : Environment) (c : Option PluralContext) (p : Pattern) :
    RenderM Fragment := do
  let ps ← Pattern.renderEach env c p
  return .ofParts ps

theorem Pattern.renderEach_eq (env : Environment) (c : Option PluralContext) (p : Pattern) :
    renderEach env c p = p.mapM (Element.renderIn env c) := by
  induction p with
  | nil => simp only [renderEach, List.mapM_nil]
  | cons e es ih => simp only [renderEach, List.mapM_cons, ih]

/-- Where each branch renders as the template for its key, the branch under a key does. -/
theorem Branches.renderUnder_eq {env : Environment} {c : Option PluralContext}
    {branch : String → Template} {bs : Branches}
    (h : ∀ b ∈ bs, (branch b.1).render env = Pattern.renderIn env c b.2) {key : String}
    (hkey : key ∈ bs.map Prod.fst) : renderUnder env c key bs = (branch key).render env := by
  induction bs with
  | nil => exact absurd hkey List.not_mem_nil
  | cons b bs ih =>
    obtain ⟨k, es⟩ := b
    obtain ⟨hhead, hrest⟩ := List.forall_mem_cons.mp h
    rw [renderUnder]
    split
    · next heq =>
      subst heq
      exact hhead.symm
    · next hne =>
      rcases List.mem_cons.mp hkey with heq | hmem
      · exact absurd heq.symm hne
      · exact ih hrest hmem

namespace RenderM

/-- Computations with the same outcomes from every state are the same. -/
theorem ext_outcome {α : Type} {x y : RenderM α} (h : ∀ s, x.outcome s = y.outcome s) : x = y :=
  funext h

@[simp] theorem outcome_ofResult_ok {α : Type} (a : α) (s : CallState) :
    outcome (ofResult (.ok a)) s = (.ok a, s) := rfl

end RenderM

namespace Template

/-! ### Templates and the patterns they come from -/

/-- A template made of parts renders them from left to right and joins the fragments. -/
theorem render_ofParts (env : Environment) (ts : List Template) :
    (ofParts ts).render env = do
      let ps ← ts.mapM (render env)
      return .ofParts ps := by
  rcases ts with _ | ⟨t, _ | ⟨t', ts⟩⟩
  · rfl
  · simp only [ofParts, List.mapM_cons, List.mapM_nil, bind_assoc, pure_bind, Fragment.ofParts,
      bind_pure]
  · -- from two results on, joining is concatenation
    simp only [ofParts, render_sequence, List.mapM_cons, bind_assoc, pure_bind,
      Fragment.ofParts]

/-- A template renders as the pattern that it was compiled from, if the templates of
    its elements do. -/
theorem render_eq_of_compileIn {env : Environment} {c : Option PluralContext} {p : Pattern}
    {t : Template} (ih : ∀ e ∈ p, ∀ t, compileElement c e = .ok t → t.render env = e.renderIn env c)
    (h : compileIn c p = .ok t) : t.render env = p.renderIn env c := by
  obtain ⟨ts, hts, rfl⟩ := compileIn_eq_ok_iff.mp h
  have hwalk : ts.mapM (render env) = p.mapM (Element.renderIn env c) := by
    have hsteps := mapM_eq_ok_iff.mp hts
    -- the walk over the elements and the walk over their templates take the same steps
    clear hts h
    induction hsteps with
    | nil => rfl
    | @cons e t p ts ht _ ihRest =>
      obtain ⟨hhead, hrest⟩ := List.forall_mem_cons.mp ih
      rw [List.mapM_cons, List.mapM_cons, hhead t ht, ihRest hrest]
  rw [render_ofParts, hwalk, Pattern.renderIn, Pattern.renderEach_eq]

/-! ### Choices -/

/-- A plural that compiles has a template for each of its branches, and renders the one
    under its key. -/
theorem exists_branches_of_plural {c : Option PluralContext} {id : String} {kind : PluralKind}
    {offset : Int64} {bs : Branches} {t : Template} (ordered : Table.Ascending bs)
    (h : compileElement c (.plural id kind offset bs) = .ok t) :
    ∃ branch : String → Template,
      (∀ b ∈ bs, compileIn (some ⟨id, offset⟩) b.2 = .ok (branch b.1)) ∧
      otherKey ∈ bs.map Prod.fst ∧
      ∀ env, t.render env = (do
        let _ ← RenderM.argument? env id
        let key ← RenderM.ofResult (env.pluralKey id kind offset (bs.map Prod.fst))
        (branch key).render env) := by
  -- the fallback of the compiled branches is the branch under the fallback key
  obtain ⟨bs', other, hbs, hother, rfl⟩ := compile_plural_eq_ok_iff.mp h
  obtain ⟨branch, hcompiled, hread⟩ := exists_readAs ordered hbs
  obtain ⟨hfallback, rfl⟩ := hread.other hother
  have hkeys : (bs.map Prod.fst).Pairwise (· < ·) := List.pairwise_map.mpr ordered
  refine ⟨branch, hcompiled, hfallback, fun env => ?_⟩
  apply RenderM.ext_outcome
  intro s
  simp only [render_plural, RenderM.outcome_bind, RenderM.outcome_argument?,
    Environment.pluralKey]
  -- an absent argument takes the fallback, as does a number without a key of its own
  cases env.arguments id with
  | none => simp only [RenderM.outcome_ofResult_ok]
  | some v =>
    simp only [RenderM.outcome_bind]
    cases v.quantity? with
    | none => rfl
    | some q =>
      simp only [RenderM.outcome_require_some]
      refine (outcome_choice hkeys hread env q s).trans ?_
      cases PluralChoice.among (bs.map Prod.fst) q.toBinary64 with
      | settled key => simp only [RenderM.outcome_ofResult_ok]
      | byCategory keyOf =>
        cases env.localizer.category kind (q.minus offset) with
        | error e => rfl
        | ok category => simp only [RenderM.outcome_ofResult_ok]

/-- A plural that compiles renders the branch under its key. -/
theorem render_compiled_plural {env : Environment} {c : Option PluralContext} {id : String}
    {kind : PluralKind} {offset : Int64} {bs : Branches} {t : Template}
    (ih : ∀ b ∈ bs, ∀ t, compileIn (some ⟨id, offset⟩) b.2 = .ok t →
      t.render env = Pattern.renderIn env (some ⟨id, offset⟩) b.2)
    (ordered : Table.Ascending bs) (h : compileElement c (.plural id kind offset bs) = .ok t) :
    t.render env = (Element.plural id kind offset bs).renderIn env c := by
  obtain ⟨branch, hcompiled, hfallback, hrender⟩ := exists_branches_of_plural ordered h
  have hbranch : ∀ key ∈ bs.map Prod.fst,
      Branches.renderUnder env (some ⟨id, offset⟩) key bs = (branch key).render env :=
    fun key hkey =>
      Branches.renderUnder_eq (fun b hb => ih b hb _ (hcompiled b hb)) hkey
  rw [hrender, Element.renderIn]
  congr
  funext _
  -- what the key is does not depend on the branches, and it is always one of their keys
  cases hkey : env.pluralKey id kind offset (bs.map Prod.fst) with
  | error e => rfl
  | ok key =>
    show (branch key).render env = Branches.renderUnder env (some ⟨id, offset⟩) key bs
    rw [hbranch key (env.pluralKey_mem hfallback hkey)]

theorem lookup_map_keys {β : Type} (f : String → β) (keys : List String) (key : String) :
    (keys.map fun k => (k, f k)).lookup key = if key ∈ keys then some (f key) else none := by
  induction keys with
  | nil => rfl
  | cons k keys ih =>
    rw [List.map_cons, Table.lookup_entry, ih]
    by_cases h : key = k
    · simp [h]
    · simp [h]

/-- Looking up among such entries with the fallback set apart. -/
theorem lookup_map_keys_filter {β : Type} (f : String → β) (keys : List String) (key : String) :
    ((keys.map fun k => (k, f k)).filter fun b => b.1 != otherKey).lookup key =
      if key ∈ keys ∧ key ≠ otherKey then some (f key) else none := by
  rw [List.filter_map]
  refine (lookup_map_keys f _ key).trans ?_
  simp [List.mem_filter]

/-- The compiled branches of a select are the templates by key. -/
theorem selectBranches_eq {c : Option PluralContext} {branch : String → Template} {bs : Branches}
    {bs' : List (String × Template)}
    (hcompiled : ∀ b ∈ bs, compileIn c b.2 = .ok (branch b.1))
    (h : bs.mapM (compileSelectBranch c) = .ok bs') :
    bs' = (bs.map Prod.fst).map fun key => (key, branch key) := by
  have hsteps := mapM_eq_ok_iff.mp h
  clear h
  induction hsteps with
  | nil => rfl
  | @cons b b' bs bs' hb _ ih =>
    obtain ⟨hhead, hrest⟩ := List.forall_mem_cons.mp hcompiled
    obtain ⟨key, t⟩ := b'
    obtain ⟨ht, rfl⟩ := compileSelectBranch_eq_ok_iff.mp hb
    obtain rfl : t = branch b.1 := Except.ok.inj (ht.symm.trans hhead)
    rw [ih hrest, List.map_cons, List.map_cons]

/-- A select that compiles renders the branch under its key. -/
theorem render_compiled_select {env : Environment} {c : Option PluralContext} {id : String}
    {bs : Branches} {t : Template}
    (ih : ∀ b ∈ bs, ∀ t, compileIn c b.2 = .ok t → t.render env = Pattern.renderIn env c b.2)
    (ordered : Table.Ascending bs) (h : compileElement c (.select id bs) = .ok t) :
    t.render env = (Element.select id bs).renderIn env c := by
  obtain ⟨bs', other, hbs, hother, rfl⟩ := compile_select_eq_ok_iff.mp h
  have hcompile : ∀ b ∈ bs, ∃ t, compileIn c b.2 = .ok t := by
    intro b hb
    obtain ⟨⟨key, t⟩, _, hstep⟩ := ok_of_mapM_ok hbs b hb
    exact ⟨t, (compileSelectBranch_eq_ok_iff.mp hstep).1⟩
  obtain ⟨branch, hcompiled⟩ :=
    ordered.exists_by_key (P := fun body t => compileIn c body = .ok t) hcompile
  obtain rfl := selectBranches_eq hcompiled hbs
  obtain ⟨hfallback, rfl⟩ : otherKey ∈ bs.map Prod.fst ∧ branch otherKey = other := by
    rw [lookup_map_keys] at hother
    split at hother
    · next hmem => exact ⟨hmem, Option.some.inj hother⟩
    · cases hother
  have hbranch : ∀ key ∈ bs.map Prod.fst,
      Branches.renderUnder env c key bs = (branch key).render env :=
    fun key hkey => Branches.renderUnder_eq (fun b hb => ih b hb _ (hcompiled b hb)) hkey
  apply RenderM.ext_outcome
  intro s
  simp only [render_select, Element.renderIn, RenderM.outcome_bind, RenderM.outcome_argument?,
    Environment.selectKey]
  cases env.arguments id with
  | none => simp only [RenderM.outcome_ofResult_ok, hbranch otherKey hfallback]
  | some v =>
    simp only [RenderM.outcome_bind]
    cases v.shown? with
    | none => rfl
    | some key =>
      simp only [RenderM.outcome_require_some, RenderM.outcome_ofResult_ok,
        lookup_map_keys_filter]
      by_cases hkey : key ∈ bs.map Prod.fst
      · by_cases hother : key = otherKey
        -- the fallback is set apart from the other branches, but it is the one under its key
        · subst hother
          simp [hkey, hbranch]
        · simp [hkey, hother, hbranch]
      · simp [hkey, hbranch, hfallback]

/-- An element that compiles renders as its template does. -/
theorem render_eq_of_compileElement {env : Environment} (e : Element) :
    ∀ c t, Pattern.OrderedParts e → compileElement c e = .ok t →
      t.render env = e.renderIn env c := by
  -- induction over the element, for every context and every template that it compiles to
  induction e using Element.induct with
  | literal | argument | number | moment | emptyTag =>
    intro c t _ h
    cases h
    rfl
  | pound =>
    intro c t _ h
    cases c with
    | none => cases h
    | some around =>
      cases h
      rfl
  | plural id kind offset bs ih =>
    intro c t ordered h
    refine render_compiled_plural (fun b hb t ht => ?_) ordered.ascending h
    have hparts := Pattern.ordered_iff.mp (ordered.branches b hb)
    exact render_eq_of_compileIn (fun e he t => ih b hb e he _ t (hparts e he)) ht
  | select id bs ih =>
    intro c t ordered h
    refine render_compiled_select (fun b hb t ht => ?_) ordered.ascending h
    have hparts := Pattern.ordered_iff.mp (ordered.branches b hb)
    exact render_eq_of_compileIn (fun e he t => ih b hb e he _ t (hparts e he)) ht
  | tag id attributes es ih =>
    intro c t ordered h
    rw [compile_tag_eq] at h
    obtain ⟨t', ht', rfl⟩ := map_eq_ok_iff.mp h
    have hparts := Pattern.ordered_iff.mp ordered.children
    have hchildren := render_eq_of_compileIn (fun e he t => ih e he c t (hparts e he)) ht'
    simp only [render_tag, Element.renderIn, hchildren, Pattern.renderIn, bind_assoc, pure_bind]

/-- **A template renders as its pattern.** Compiling an ordered pattern changes neither
    the output nor the absences nor the errors of any rendering. -/
theorem render_eq_of_compile {p : Pattern} (ordered : p.Ordered) {t : Template}
    (h : compile p = .ok t) (env : Environment) : t.render env = p.renderIn env none :=
  render_eq_of_compileIn (fun e he t =>
    render_eq_of_compileElement e none t (Pattern.ordered_iff.mp ordered e he)) h

end Template

end Phrasebook
