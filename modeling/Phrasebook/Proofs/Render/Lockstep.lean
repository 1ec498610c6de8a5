import Mathlib.Data.List.Forall2
import Phrasebook.Proofs.Render.Outcome

/-! # Two renderings side by side

    Two computations run in lockstep when, started in related states, they end in
    related states, both with results that are related or both with the same
    error. Each step of a rendering keeps two computations in lockstep if what
    follows it does, so a statement about two whole renderings is an induction
    over the template with one case per constructor.
-/

namespace Phrasebook.RenderM

variable {α β γ δ : Type} {S : CallState → CallState → Prop} {R : α → β → Prop}

/-- What is found on both sides, or else what the two sides fall back on, is related if
    both are. -/
theorem rel_getD {T : α → β → Prop} {u : Option α} {v : Option β} {x : α} {y : β}
    (hfound : Option.Rel T u v) (hother : T x y) : T (u.getD x) (v.getD y) := by
  cases hfound with
  | some hbranch => exact hbranch
  | none => exact hother

/-- What is made of the first entry of a kind is related on both sides, if it is for every
    entry. -/
theorem rel_find? {ι : Type} {T : α → β → Prop} {p : ι → Bool} {f : ι → α} {f' : ι → β}
    {xs : List ι} (h : ∀ x ∈ xs, T (f x) (f' x)) :
    Option.Rel T ((xs.find? p).map f) ((xs.find? p).map f') := by
  cases hfind : xs.find? p with
  | none => exact .none
  | some x => exact .some (h x (List.mem_of_find?_eq_some hfind))

theorem rel_lookup {ι : Type} {T : α → β → Prop} {key : String} {f : ι → α} {f' : ι → β}
    {entries : List (String × ι)} (h : ∀ e ∈ entries, T (f e.2) (f' e.2)) :
    Option.Rel T ((entries.lookup key).map f) ((entries.lookup key).map f') := by
  cases hlookup : entries.lookup key with
  | none => exact .none
  | some x => exact .some (h _ (Table.mem_of_lookup hlookup))

/-- Two outcomes match: related results in related states, or the same error in
    related states. -/
inductive Matched (S : CallState → CallState → Prop) (R : α → β → Prop) :
    Except RenderError α × CallState → Except RenderError β × CallState → Prop
  | ok {a : α} {b : β} {s s' : CallState} (hr : R a b) (hs : S s s') :
      Matched S R (.ok a, s) (.ok b, s')
  | error {e : RenderError} {s s' : CallState} (hs : S s s') :
      Matched S R (.error e, s) (.error e, s')

/-- **Lockstep**: from related states the outcomes of the two computations match. -/
def Lockstep (S : CallState → CallState → Prop) (R : α → β → Prop) (x : RenderM α)
    (y : RenderM β) : Prop :=
  ∀ s s', S s s' → Matched S R (x.outcome s) (y.outcome s')

namespace Lockstep

theorem pure {a : α} {b : β} (h : R a b) :
    Lockstep S R (Pure.pure a) (Pure.pure b) :=
  fun _ _ hs => .ok h hs

theorem throw (e : RenderError) :
    Lockstep S R (MonadExcept.throw e) (MonadExcept.throw e) :=
  fun _ _ hs => .error hs

/-- Computations that run in lockstep from each state to the same state, with the same
    results, are one. -/
theorem eq {x y : RenderM α} (h : Lockstep Eq Eq x y) : x = y := by
  funext s
  show x.outcome s = y.outcome s
  -- the outcomes are made into variables, so that their match can be taken apart
  have hmatch := h s s rfl
  revert hmatch
  generalize x.outcome s = u
  generalize y.outcome s = v
  intro hmatch
  cases hmatch with
  | ok hr hs => rw [hr, hs]
  | error hs => rw [hs]

theorem mono {Q : α → β → Prop} {x : RenderM α} {y : RenderM β} (hx : Lockstep S R x y)
    (h : ∀ a b, R a b → Q a b) : Lockstep S Q x y := by
  intro s s' hs
  have hmatch := hx s s' hs
  revert hmatch
  generalize x.outcome s = u
  generalize y.outcome s' = v
  intro hmatch
  cases hmatch with
  | ok hr hs => exact .ok (h _ _ hr) hs
  | error hs => exact .error hs

/-- One step after another: the second steps are needed in lockstep only on related results. -/
theorem bind {Q : γ → δ → Prop} {x : RenderM α} {y : RenderM β} {f : α → RenderM γ}
    {g : β → RenderM δ} (hx : Lockstep S R x y) (hf : ∀ a b, R a b → Lockstep S Q (f a) (g b)) :
    Lockstep S Q (x >>= f) (y >>= g) := by
  intro s s' hs
  -- the match of the first steps tells from which states the second steps start
  rw [outcome_bind, outcome_bind]
  have hmatch := hx s s' hs
  revert hmatch
  generalize x.outcome s = u
  generalize y.outcome s' = v
  intro hmatch
  cases hmatch with
  | ok hr hs => exact hf _ _ hr _ _ hs
  | error hs => exact .error hs

/-- One step after another, when the first steps give the same. -/
theorem bind_same {Q : γ → δ → Prop} {x y : RenderM α} {f : α → RenderM γ}
    {g : α → RenderM δ} (hx : Lockstep S Eq x y) (hf : ∀ a, Lockstep S Q (f a) (g a)) :
    Lockstep S Q (x >>= f) (y >>= g) := by
  apply hx.bind
  intro a b hab
  subst hab
  exact hf a

theorem ofLocale (r : Except LocaleError α) :
    Lockstep S Eq (RenderM.ofLocale r) (RenderM.ofLocale r) := by
  cases r with
  | ok a => exact pure rfl
  | error e => exact throw (.locale e)

theorem require_rel (id : String) (expected : Expectation) {r : Option α} {r' : Option β}
    (h : Option.Rel R r r') :
    Lockstep S R (RenderM.require id expected r) (RenderM.require id expected r') := by
  cases h with
  | some hr => exact pure hr
  | none => exact throw (.invalidArgument id expected)

theorem require (id : String) (expected : Expectation) (r : Option α) :
    Lockstep S Eq (RenderM.require id expected r) (RenderM.require id expected r) := by
  cases r with
  | some a => exact pure rfl
  | none => exact throw (.invalidArgument id expected)

/-- Walks over two lists whose entries are in lockstep one by one. -/
theorem mapM {ι κ : Type} {f : ι → RenderM α} {g : κ → RenderM β} {xs : List ι} {ys : List κ}
    (h : List.Forall₂ (fun x y => Lockstep S R (f x) (g y)) xs ys) :
    Lockstep S (List.Forall₂ R) (xs.mapM f) (ys.mapM g) := by
  induction h with
  | nil =>
    rw [List.mapM_nil, List.mapM_nil]
    exact pure .nil
  | cons hxy _ ih =>
    rw [List.mapM_cons, List.mapM_cons]
    exact hxy.bind fun a b hab => ih.bind fun as bs habs => pure (.cons hab habs)

end Lockstep

end Phrasebook.RenderM
