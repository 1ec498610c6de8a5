import Phrasebook.Proofs.Pattern.Acceptance
import Phrasebook.Proofs.Pattern.Occurrence

/-! # Decoded patterns

    What holds of the elements that decoding gives, at whatever depth, by a look at
    one element at a time.

    The branches of every choice in a decoded pattern are ascending. Statements
    about ordered patterns hence hold of all patterns that are read from a text,
    whatever the order and the repetitions of the keys in it.
-/

namespace Phrasebook

namespace Grammar

/-- The branches of a table have a property that all patterns inside an object have. -/
theorem inside_of_branchesMean {Q : Pattern → Prop} {members : List (String × Json)}
    {branches : List (String × Pattern)}
    (h : List.Forall₂ (BranchMeans fun _ p => Q p) members branches) :
    ∀ b ∈ Table.ofList branches, Q b.2 := by
  intro b hb
  obtain ⟨m, -, hm⟩ := exists_of_mem_right h b (Table.mem_ofList hb)
  cases hm with
  | member hp => exact hp

/-- What an optional entry means has a property that the fallback and all meanings have. -/
theorem OptionalMeans.satisfies {α : Type} {fallback : α} {meaning : Json → α → Prop}
    {entry : Option Json} {a : α} {P : α → Prop} (h : OptionalMeans fallback meaning entry a)
    (hfallback : P fallback) (hmeaning : ∀ v a, meaning v a → P a) : P a := by
  cases h with
  | missing => exact hfallback
  | null => exact hfallback
  | given h => exact hmeaning _ a h

/-- The branches and the children of an element have a property that the empty pattern
    and all patterns inside its item have. -/
theorem inside_of_typedMeans {Q : Pattern → Prop} (hempty : Q []) {type : ArgumentType}
    {id : String} {entries : List Json} {e : Element}
    (h : TypedMeans (fun _ p => Q p) type id entries e) :
    (∀ b ∈ e.branches, Q b.2) ∧ Q e.children := by
  have hnone : ∀ b ∈ ([] : Branches), Q b.2 := fun b hb => absurd hb List.not_mem_nil
  -- only choices have branches and only tags have children
  cases h with
  | moment => exact ⟨hnone, hempty⟩
  | number => exact ⟨hnone, hempty⟩
  | styled => exact ⟨hnone, hempty⟩
  | plural _ _ hbranches => exact ⟨inside_of_branchesMean hbranches, hempty⟩
  | select _ hbranches => exact ⟨inside_of_branchesMean hbranches, hempty⟩
  | tag hbody =>
    refine ⟨hnone, hbody.satisfies (P := fun a => Q a.2) hempty fun v a ha => ?_⟩
    cases ha with
    | array _ hchildren => exact hchildren.satisfies hempty fun _ _ h => h
  | emptyTag _ => exact ⟨hnone, hempty⟩

/-- **Elements one at a time.** A property that every item gives its element holds
    everywhere in the pattern that a value means. -/
theorem Denotes.everywhere {P : Element → Prop}
    (hitem : ∀ inner item e, ItemMeans inner item e → P e) {v : Json} {p : Pattern}
    (h : Denotes v p) : p.Everywhere P := by
  -- induction along the meaning: what an item means has the property, and so has all inside it
  refine h.induct (motive := fun _ p => p.Everywhere P) fun items p hitems => ?_
  refine Pattern.everywhere_iff.mpr fun e he => ?_
  obtain ⟨item, -, hmeans⟩ := exists_of_mem_right hitems e he
  have hself : P e := hitem _ item e hmeans
  cases hmeans with
  | text => exact .of_leaf hself rfl rfl
  | array h =>
    cases h with
    | pound => exact .of_leaf hself rfl rfl
    | argument => exact .of_leaf hself rfl rfl
    | typed _ _ _ _ h =>
      have hinside := inside_of_typedMeans (Q := fun p => p.Everywhere P)
        Pattern.everywhere_nil h
      exact ⟨hself, hinside.1, hinside.2⟩

end Grammar

namespace Pattern

/-- **Decoded patterns are ordered.** -/
theorem ordered_of_ofJson {v : Json} {p : Pattern} (h : ofJson v = .ok p) : p.Ordered := by
  refine (ofJson_eq_ok_iff.mp h).everywhere fun inner item e hmeans => ?_
  cases hmeans with
  | text => exact Table.ascending_nil
  | array hmeans =>
    cases hmeans with
    | pound => exact Table.ascending_nil
    | argument => exact Table.ascending_nil
    | typed _ _ _ _ hmeans =>
      cases hmeans with
      | plural => exact Table.ascending_ofList _
      | select => exact Table.ascending_ofList _
      | _ => exact Table.ascending_nil

theorem ordered_of_parse {s : String} {p : Pattern} (h : parse s = .ok p) : p.Ordered := by
  unfold parse at h
  split at h
  · cases h
  · exact ordered_of_ofJson h

end Pattern

end Phrasebook
