import Phrasebook.Proofs.Render.Direct

/-! # The elements that a rendering comes to

    A rendering walks along a pattern from left to right. Of a choice it enters the
    branch under the key that is taken, and none where no key can be told. An outer
    element is met before the ones inside it.

    The walk `Pattern.visited` lists the elements on this way, each with the plural
    around it, without rendering anything. Every one of them stands in the pattern.
-/

namespace Phrasebook

/-! ### The walk -/

mutual

/-- The elements that a rendering of an element inside a given plural comes to, the
    element itself first, each with the innermost plural around it. -/
def Element.visited (env : Environment) (c : Option PluralContext) :
    Element → List (Option PluralContext × Element)
  | .plural id kind offset bs =>
    (c, .plural id kind offset bs) ::
      match env.pluralKey id kind offset (bs.map Prod.fst) with
      | .ok key => Branches.visited env (some ⟨id, offset⟩) key bs
      | .error _ => []
  | .select id bs =>
    (c, .select id bs) ::
      match env.selectKey id (bs.map Prod.fst) with
      | .ok key => Branches.visited env c key bs
      | .error _ => []
  | .tag id attributes es => (c, .tag id attributes es) :: Pattern.visited env c es
  | .literal text => [(c, .literal text)]
  | .argument id => [(c, .argument id)]
  | .number id offset style => [(c, .number id offset style)]
  | .moment id kind style => [(c, .moment id kind style)]
  | .emptyTag id attributes => [(c, .emptyTag id attributes)]
  | .pound => [(c, .pound)]

def Pattern.visited (env : Environment) (c : Option PluralContext) :
    List Element → List (Option PluralContext × Element)
  | [] => []
  | e :: es => e.visited env c ++ Pattern.visited env c es

def Branches.visited (env : Environment) (c : Option PluralContext) (key : String) :
    List (String × List Element) → List (Option PluralContext × Element)
  | [] => []
  | (k, es) :: bs => if k = key then Pattern.visited env c es else Branches.visited env c key bs

end

theorem Pattern.visited_eq (env : Environment) (c : Option PluralContext) (p : Pattern) :
    visited env c p = p.flatMap (Element.visited env c) := by
  induction p with
  | nil => rfl
  | cons e es ih => rw [visited, List.flatMap_cons, ih]

theorem Branches.exists_of_mem_visited {env : Environment} {c : Option PluralContext}
    {key : String} {bs : Branches} {v : Option PluralContext × Element}
    (h : v ∈ visited env c key bs) : ∃ b ∈ bs, v ∈ Pattern.visited env c b.2 := by
  induction bs with
  | nil => exact absurd h List.not_mem_nil
  | cons b bs ih =>
    obtain ⟨k, es⟩ := b
    rw [visited] at h
    split at h
    · exact ⟨(k, es), List.mem_cons_self, h⟩
    · obtain ⟨b, hb, hv⟩ := ih h
      exact ⟨b, List.mem_cons_of_mem _ hb, hv⟩

theorem Branches.exists_of_mem_choice {env : Environment} {c : Option PluralContext}
    {key? : Except RenderError String} {bs : Branches} {v : Option PluralContext × Element}
    (h : v ∈ match key? with
      | .ok key => visited env c key bs
      | .error _ => []) : ∃ b ∈ bs, v ∈ Pattern.visited env c b.2 := by
  cases key? with
  | ok key => exact exists_of_mem_visited h
  | error x => exact absurd h List.not_mem_nil

/-! ### Where the elements stand -/

/-- An element stands somewhere in a pattern, with a given innermost plural around it,
    where the pattern itself stands inside another. -/
def Pattern.Holds (p : Pattern) (c : Option PluralContext) (v : Option PluralContext × Element) :
    Prop :=
  ∃ π above, p.At π above v.2 ∧ innermost c above = v.1

namespace Pattern.Holds

variable {p : Pattern} {c : Option PluralContext} {e : Element}
  {v : Option PluralContext × Element}

theorem self (he : e ∈ p) : p.Holds c (c, e) := by
  obtain ⟨i, hi⟩ := List.mem_iff_getElem?.mp he
  exact ⟨[.element i], [], .here hi, rfl⟩

/-- What a branch of a choice holds, every pattern with that choice holds. -/
theorem branch (he : e ∈ p) {b : String × Pattern} (hb : b ∈ e.branches)
    (h : Holds b.2 (e.context c) v) : p.Holds c v := by
  obtain ⟨i, hi⟩ := List.mem_iff_getElem?.mp he
  obtain ⟨π, above, hat, hinner⟩ := h
  exact ⟨_, e :: above, .branch hi hb hat, hinner⟩

/-- What the children of a tag hold, every pattern with that tag holds. -/
theorem child (he : e ∈ p) (h : Holds e.children (e.context c) v) : p.Holds c v := by
  obtain ⟨i, hi⟩ := List.mem_iff_getElem?.mp he
  obtain ⟨π, above, hat, hinner⟩ := h
  exact ⟨_, e :: above, .child hi hat, hinner⟩

end Pattern.Holds

section
variable {env : Environment}

theorem Pattern.holds_of_elements {p : Pattern} {c : Option PluralContext}
    (ih : ∀ e ∈ p, ∀ v ∈ e.visited env c, p.Holds c v) : ∀ v ∈ visited env c p, p.Holds c v := by
  intro v hv
  rw [visited_eq] at hv
  obtain ⟨e, he, hv⟩ := List.mem_flatMap.mp hv
  exact ih e he v hv

theorem Element.holds_of_mem_visited (e : Element) : ∀ (c : Option PluralContext) (p : Pattern),
    e ∈ p → ∀ v ∈ e.visited env c, p.Holds c v := by
  -- a plural changes the context of what is inside it, so the context varies
  induction e using Element.induct with
  | literal | argument | number | moment | emptyTag | pound =>
    intro c p he v hv
    rw [List.mem_singleton.mp hv]
    exact .self he
  | plural id kind offset bs ih =>
    intro c p he v hv
    rw [visited] at hv
    rcases List.mem_cons.mp hv with rfl | hv
    · exact .self he
    · -- wherever the key comes from, only one of the branches is entered
      obtain ⟨b, hb, hv⟩ := Branches.exists_of_mem_choice hv
      exact .branch he hb (Pattern.holds_of_elements (fun e he => ih b hb e he _ _ he) v hv)
  | select id bs ih =>
    intro c p he v hv
    rw [visited] at hv
    rcases List.mem_cons.mp hv with rfl | hv
    · exact .self he
    · obtain ⟨b, hb, hv⟩ := Branches.exists_of_mem_choice hv
      exact .branch he hb (Pattern.holds_of_elements (fun e he => ih b hb e he _ _ he) v hv)
  | tag id attributes es ih =>
    intro c p he v hv
    rw [visited] at hv
    rcases List.mem_cons.mp hv with rfl | hv
    · exact .self he
    · exact .child he (Pattern.holds_of_elements (fun e he => ih e he c es he) v hv)

/-- **Only elements of the pattern are met**, each with the innermost plural around the
    place where it stands. -/
theorem Pattern.holds_of_mem_visited {p : Pattern} {c : Option PluralContext} :
    ∀ v ∈ visited env c p, p.Holds c v :=
  holds_of_elements fun e he => e.holds_of_mem_visited c p he

end

/-! ### The tags among them -/

def Element.plainTag? : Element → Option PlainTag
  | .tag id attributes _ => some ⟨id, attributes, .paired⟩
  | .emptyTag id attributes => some ⟨id, attributes, .empty⟩
  | _ => none

/-- The tags that a rendering of an element comes to, in order. -/
def Element.tagsMet (env : Environment) (c : Option PluralContext) (e : Element) :
    List PlainTag :=
  (e.visited env c).filterMap fun v => v.2.plainTag?

def Pattern.tagsMet (env : Environment) (c : Option PluralContext) (p : Pattern) :
    List PlainTag :=
  (Pattern.visited env c p).filterMap fun v => v.2.plainTag?

def Branches.tagsMet (env : Environment) (c : Option PluralContext) (key : String)
    (bs : Branches) : List PlainTag :=
  (Branches.visited env c key bs).filterMap fun v => v.2.plainTag?

section
variable {env : Environment} {c : Option PluralContext}

theorem Pattern.tagsMet_eq (p : Pattern) :
    tagsMet env c p = p.flatMap (Element.tagsMet env c) := by
  rw [tagsMet, visited_eq, List.filterMap_flatMap]
  rfl

theorem Element.tagsMet_plural (id : String) (kind : PluralKind) (offset : Int64)
    (bs : Branches) :
    (Element.plural id kind offset bs).tagsMet env c =
      match env.pluralKey id kind offset (bs.map Prod.fst) with
      | .ok key => Branches.tagsMet env (some ⟨id, offset⟩) key bs
      | .error _ => [] := by
  rw [tagsMet, visited]
  cases env.pluralKey id kind offset (bs.map Prod.fst) <;> rfl

theorem Element.tagsMet_select (id : String) (bs : Branches) :
    (Element.select id bs).tagsMet env c =
      match env.selectKey id (bs.map Prod.fst) with
      | .ok key => Branches.tagsMet env c key bs
      | .error _ => [] := by
  rw [tagsMet, visited]
  cases env.selectKey id (bs.map Prod.fst) <;> rfl

end

end Phrasebook
