import Phrasebook.Proofs.Pattern.Occurrence
import Phrasebook.Proofs.Template.Compilation

/-! # Replacing leaves

    A leaf of a pattern is an element with neither branches nor children. Leaves
    can be replaced all over a pattern, each in view of the innermost plural
    around it, and all over a template.

    Where replacing a single leaf of a pattern replaces its template, replacing
    all leaves of a pattern replaces those of its template: `compile_mapLeaves`.
-/

namespace Phrasebook

/-! ### Leaves of patterns -/

/-- Neither a choice nor a tag around children. -/
def Element.IsLeaf : Element → Prop
  | .plural .. => False
  | .select .. => False
  | .tag .. => False
  | _ => True

mutual

/-- The element with its leaves replaced, given the innermost plural around it. -/
def Element.mapLeaves (f : Option PluralContext → Element → Element)
    (c : Option PluralContext) : Element → Element
  | .plural id kind offset bs =>
    .plural id kind offset (Branches.mapLeaves f (some ⟨id, offset⟩) bs)
  | .select id bs => .select id (Branches.mapLeaves f c bs)
  | .tag id attributes es => .tag id attributes (Pattern.mapLeaves f c es)
  | .literal text => f c (.literal text)
  | .argument id => f c (.argument id)
  | .number id offset style => f c (.number id offset style)
  | .moment id kind style => f c (.moment id kind style)
  | .emptyTag id attributes => f c (.emptyTag id attributes)
  | .pound => f c .pound

def Pattern.mapLeaves (f : Option PluralContext → Element → Element)
    (c : Option PluralContext) : List Element → List Element
  | [] => []
  | e :: es => e.mapLeaves f c :: Pattern.mapLeaves f c es

def Branches.mapLeaves (f : Option PluralContext → Element → Element)
    (c : Option PluralContext) : List (String × List Element) → List (String × List Element)
  | [] => []
  | (key, es) :: bs => (key, Pattern.mapLeaves f c es) :: Branches.mapLeaves f c bs

end

section
variable {f : Option PluralContext → Element → Element}

theorem Pattern.mapLeaves_eq_map (c : Option PluralContext) (p : Pattern) :
    Pattern.mapLeaves f c p = p.map (Element.mapLeaves f c) := by
  induction p with
  | nil => rfl
  | cons e es ih => simp only [Pattern.mapLeaves, List.map_cons, ih]

theorem Branches.mapLeaves_eq_map (c : Option PluralContext) (bs : List (String × List Element)) :
    Branches.mapLeaves f c bs = bs.map fun b => (b.1, Pattern.mapLeaves f c b.2) := by
  induction bs with
  | nil => rfl
  | cons b bs ih => simp only [Branches.mapLeaves, List.map_cons, ih]

end

/-! ### Leaves of templates -/

/-- **Induction over templates**: a property that a template has as soon as the
    templates in it have it holds of every template. -/
theorem Template.induct {motive : Template → Prop}
    (literal : ∀ text, motive (.literal text))
    (sequence : ∀ ts, (∀ t ∈ ts, motive t) → motive (.sequence ts))
    (argument : ∀ id, motive (.argument id))
    (number : ∀ id offset style, motive (.number id offset style))
    (moment : ∀ id kind style, motive (.moment id kind style))
    (plural : ∀ id kind offset exact keyed other, (∀ b ∈ exact, motive b.2) →
      (∀ b ∈ keyed, motive b.2) → motive other →
      motive (.plural id kind offset exact keyed other))
    (select : ∀ id branches other, (∀ b ∈ branches, motive b.2) → motive other →
      motive (.select id branches other))
    (tag : ∀ id attributes children, motive children → motive (.tag id attributes children))
    (emptyTag : ∀ id attributes, motive (.emptyTag id attributes)) (t : Template) : motive t := by
  -- of lists and of branches: every template in them has the property
  refine @Template.rec motive (fun ts => ∀ t ∈ ts, motive t) (fun bs => ∀ b ∈ bs, motive b.2)
    (fun bs => ∀ b ∈ bs, motive b.2) (fun b => motive b.2) (fun b => motive b.2)
    literal sequence argument number moment plural select tag emptyTag
    ?_ ?_ ?_ ?_ ?_ ?_ ?_ ?_ t
  · intro t ht
    exact absurd ht List.not_mem_nil
  · intro t ts ht hts
    exact List.forall_mem_cons.mpr ⟨ht, hts⟩
  · intro b hb
    exact absurd hb List.not_mem_nil
  · intro b bs hb hbs
    exact List.forall_mem_cons.mpr ⟨hb, hbs⟩
  · intro b hb
    exact absurd hb List.not_mem_nil
  · intro b bs hb hbs
    exact List.forall_mem_cons.mpr ⟨hb, hbs⟩
  · intro x t ht
    exact ht
  · intro key t ht
    exact ht

namespace Template

def IsLeaf : Template → Prop
  | .sequence .. => False
  | .plural .. => False
  | .select .. => False
  | .tag .. => False
  | _ => True

mutual

def mapLeaves (g : Template → Template) : Template → Template
  | .sequence ts => .sequence (mapLeavesAll g ts)
  | .plural id kind offset exact keyed other =>
    .plural id kind offset (mapLeavesExact g exact) (mapLeavesKeyed g keyed) (mapLeaves g other)
  | .select id branches other => .select id (mapLeavesKeyed g branches) (mapLeaves g other)
  | .tag id attributes t => .tag id attributes (mapLeaves g t)
  | .literal text => g (.literal text)
  | .argument id => g (.argument id)
  | .number id offset style => g (.number id offset style)
  | .moment id kind style => g (.moment id kind style)
  | .emptyTag id attributes => g (.emptyTag id attributes)

def mapLeavesAll (g : Template → Template) : List Template → List Template
  | [] => []
  | t :: ts => mapLeaves g t :: mapLeavesAll g ts

def mapLeavesExact (g : Template → Template) :
    List (Binary64 × Template) → List (Binary64 × Template)
  | [] => []
  | (x, t) :: bs => (x, mapLeaves g t) :: mapLeavesExact g bs

def mapLeavesKeyed (g : Template → Template) : List (String × Template) → List (String × Template)
  | [] => []
  | (key, t) :: bs => (key, mapLeaves g t) :: mapLeavesKeyed g bs

end

section
variable {g : Template → Template}

theorem mapLeavesAll_eq_map (ts : List Template) :
    mapLeavesAll g ts = ts.map (mapLeaves g) := by
  induction ts with
  | nil => rfl
  | cons t ts ih => simp only [mapLeavesAll, List.map_cons, ih]

theorem mapLeavesExact_eq_map (bs : List (Binary64 × Template)) :
    mapLeavesExact g bs = bs.map fun b => (b.1, mapLeaves g b.2) := by
  induction bs with
  | nil => rfl
  | cons b bs ih => simp only [mapLeavesExact, List.map_cons, ih]

theorem mapLeavesKeyed_eq_map (bs : List (String × Template)) :
    mapLeavesKeyed g bs = bs.map fun b => (b.1, mapLeaves g b.2) := by
  induction bs with
  | nil => rfl
  | cons b bs ih => simp only [mapLeavesKeyed, List.map_cons, ih]

theorem map_entry_eq_self {κ : Type} {bs : List (κ × Template)}
    (h : ∀ b ∈ bs, mapLeaves g b.2 = b.2) : bs.map (fun b => (b.1, mapLeaves g b.2)) = bs := by
  have hentry : ∀ b ∈ bs, (b.1, mapLeaves g b.2) = b := fun b hb => by rw [h b hb]
  rw [List.map_congr_left hentry, List.map_id']

/-- Keeping every leaf keeps the template. -/
theorem mapLeaves_self (t : Template) : mapLeaves (fun leaf => leaf) t = t := by
  induction t using Template.induct with
  | sequence ts ih =>
    rw [mapLeaves, mapLeavesAll_eq_map, List.map_congr_left ih, List.map_id']
  | plural id kind offset exact keyed other ihExact ihKeyed ihOther =>
    rw [mapLeaves, mapLeavesExact_eq_map, mapLeavesKeyed_eq_map, map_entry_eq_self ihExact,
      map_entry_eq_self ihKeyed, ihOther]
  | select id branches other ihBranches ihOther =>
    rw [mapLeaves, mapLeavesKeyed_eq_map, map_entry_eq_self ihBranches, ihOther]
  | tag id attributes children ih => rw [mapLeaves, ih]
  | _ => rfl

/-- A single template stands for itself with or without its leaves replaced. -/
theorem mapLeaves_ofParts (ts : List Template) :
    mapLeaves g (ofParts ts) = ofParts (ts.map (mapLeaves g)) := by
  rcases ts with _ | ⟨t, _ | ⟨t', ts⟩⟩
  · simp only [ofParts, mapLeaves, mapLeavesAll, List.map_nil]
  · rfl
  · simp only [ofParts, mapLeaves, mapLeavesAll_eq_map, List.map_cons]

/-! ### Replacing leaves and compiling -/

theorem lookup_map_entry {κ : Type} [BEq κ] (k : κ) (bs : List (κ × Template)) :
    (bs.map fun b => (b.1, mapLeaves g b.2)).lookup k = (bs.lookup k).map (mapLeaves g) := by
  induction bs with
  | nil => rfl
  | cons b bs ih =>
    rw [List.map_cons, List.lookup_cons, List.lookup_cons, ih]
    cases k == b.1 <;> rfl

theorem exactBranches_map_entry (bs : List (PluralKey × Template)) :
    exactBranches (bs.map fun b => (b.1, mapLeaves g b.2)) =
      mapLeavesExact g (exactBranches bs) := by
  induction bs with
  | nil => rfl
  | cons b bs ih =>
    obtain ⟨k, t⟩ := b
    cases k with
    | exact x => rw [List.map_cons, exactBranches_exact, exactBranches_exact, mapLeavesExact, ih]
    | keyword word => rw [List.map_cons, exactBranches_keyword, exactBranches_keyword, ih]
    | other => rw [List.map_cons, exactBranches_other, exactBranches_other, ih]

theorem keyedBranches_map_entry (bs : List (PluralKey × Template)) :
    keyedBranches (bs.map fun b => (b.1, mapLeaves g b.2)) =
      mapLeavesKeyed g (keyedBranches bs) := by
  induction bs with
  | nil => rfl
  | cons b bs ih =>
    obtain ⟨k, t⟩ := b
    cases k with
    | exact x => rw [List.map_cons, keyedBranches_exact, keyedBranches_exact, ih]
    | keyword word =>
      rw [List.map_cons, keyedBranches_keyword, keyedBranches_keyword, mapLeavesKeyed, ih]
    | other => rw [List.map_cons, keyedBranches_other, keyedBranches_other, ih]

end

section
variable {f : Option PluralContext → Element → Element} {g : Template → Template}

theorem compileIn_mapLeaves {c : Option PluralContext} {p : Pattern}
    (ih : ∀ e ∈ p, compileElement c (e.mapLeaves f c) = (compileElement c e).map (mapLeaves g)) :
    compileIn c (Pattern.mapLeaves f c p) = (compileIn c p).map (mapLeaves g) := by
  simp only [compileIn, compileAll_eq, Pattern.mapLeaves_eq_map]
  rw [mapM_map_comm ih]
  cases p.mapM (compileElement c) with
  | error x => rfl
  | ok ts => exact congrArg Except.ok (mapLeaves_ofParts ts).symm

/-- Replacing leaves commutes with compiling an element, if it does at every single leaf. -/
theorem compileElement_mapLeaves
    (hleaf : ∀ c e, e.IsLeaf → compileElement c (f c e) = (compileElement c e).map (mapLeaves g))
    (e : Element) : ∀ c,
      compileElement c (e.mapLeaves f c) = (compileElement c e).map (mapLeaves g) := by
  -- a plural changes the context of what is inside, so the context varies in the induction
  induction e using Element.induct with
  | plural id kind offset bs ih =>
    intro c
    have hbranch : ∀ b ∈ bs,
        compilePluralBranch ⟨id, offset⟩ (b.1, Pattern.mapLeaves f (some ⟨id, offset⟩) b.2) =
          (compilePluralBranch ⟨id, offset⟩ b).map fun b => (b.1, mapLeaves g b.2) := by
      intro b hb
      unfold compilePluralBranch
      rw [compileIn_mapLeaves fun e he => ih b hb e he _]
      cases compileIn (some ⟨id, offset⟩) b.2 with
      | error x => rfl
      | ok t => cases PluralKey.ofText? b.1 <;> rfl
    rw [Element.mapLeaves, Branches.mapLeaves_eq_map, compileElement, compileElement,
      compilePluralBranches_eq, compilePluralBranches_eq, mapM_map_comm hbranch]
    -- on both sides the walk gives the same error, or branches that correspond
    cases bs.mapM (compilePluralBranch ⟨id, offset⟩) with
    | error x => rfl
    | ok bs' =>
      simp only [Except.map, bind, Except.bind, lookup_map_entry]
      cases bs'.lookup .other with
      | none => rfl
      | some other =>
        simp only [Option.map, exactBranches_map_entry, keyedBranches_map_entry, pure, Except.pure,
          mapLeaves]
  | select id bs ih =>
    intro c
    have hbranch : ∀ b ∈ bs, compileSelectBranch c (b.1, Pattern.mapLeaves f c b.2) =
        (compileSelectBranch c b).map fun b => (b.1, mapLeaves g b.2) := by
      intro b hb
      unfold compileSelectBranch
      rw [compileIn_mapLeaves fun e he => ih b hb e he _]
      cases compileIn c b.2 <;> rfl
    rw [Element.mapLeaves, Branches.mapLeaves_eq_map, compileElement, compileElement,
      compileSelectBranches_eq, compileSelectBranches_eq, mapM_map_comm hbranch]
    cases bs.mapM (compileSelectBranch c) with
    | error x => rfl
    | ok bs' =>
      simp only [Except.map, bind, Except.bind, lookup_map_entry]
      cases bs'.lookup otherKey with
      | none => rfl
      | some other =>
        simp only [Option.map, pure, Except.pure, mapLeaves, mapLeavesKeyed_eq_map, List.filter_map]
        rfl
  | tag id attributes children ih =>
    intro c
    rw [Element.mapLeaves, compile_tag_eq, compile_tag_eq,
      compileIn_mapLeaves fun e he => ih e he c]
    cases compileIn c children with
    | error x => rfl
    | ok t => simp only [Except.map, mapLeaves]
  | _ =>
    intro c
    simp only [Element.mapLeaves]
    exact hleaf c _ trivial

/-- **Replacing leaves commutes with compiling**, if it does at every single leaf. -/
theorem compile_mapLeaves
    (hleaf : ∀ c e, e.IsLeaf → compileElement c (f c e) = (compileElement c e).map (mapLeaves g))
    (p : Pattern) : compile (Pattern.mapLeaves f none p) = (compile p).map (mapLeaves g) :=
  compileIn_mapLeaves fun e _ => compileElement_mapLeaves hleaf e none

end

end Template

end Phrasebook
