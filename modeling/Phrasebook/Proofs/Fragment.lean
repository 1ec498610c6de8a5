import Phrasebook.Fragment

/-! # Flattening fragments

    Joining fragments joins their texts, whether the result is one text or parts
    side by side. It is one text just where all of the fragments are texts, and a
    fragment is empty just where its text is.
-/

namespace Phrasebook.Fragment

/-! ### Texts -/

def IsText (p : Fragment) : Prop :=
  ∃ s, p = .text s

/-- Fragments have texts exactly if each of them is a text. -/
theorem exists_texts?_iff {ps : List Fragment} :
    (∃ ss, texts? ps = some ss) ↔ ∀ p ∈ ps, p.IsText := by
  induction ps with
  | nil => exact ⟨fun _ p hp => absurd hp List.not_mem_nil, fun _ => ⟨[], rfl⟩⟩
  | cons p ps ih =>
    rw [List.forall_mem_cons, ← ih]
    cases p with
    | parts qs =>
      constructor
      · rintro ⟨ss, h⟩
        cases h
      · rintro ⟨⟨s, h⟩, -⟩
        cases h
    | text s =>
      constructor
      · rintro ⟨ss, h⟩
        obtain ⟨ss', hss, -⟩ := Option.map_eq_some_iff.mp h
        exact ⟨⟨s, rfl⟩, ss', hss⟩
      · rintro ⟨-, ss, hss⟩
        exact ⟨s :: ss, by rw [texts?, hss]; rfl⟩

/-- Joining gives a text exactly if each of the fragments is one. -/
theorem isText_concat_iff {ps : List Fragment} : (concat ps).IsText ↔ ∀ p ∈ ps, p.IsText := by
  rw [← exists_texts?_iff]
  unfold concat
  cases texts? ps with
  | none =>
    constructor
    · rintro ⟨s, h⟩
      cases h
    · rintro ⟨ss, h⟩
      cases h
  | some ss => exact ⟨fun _ => ⟨ss, rfl⟩, fun _ => ⟨String.join ss, rfl⟩⟩

/-! ### Joined texts -/

theorem flattenAll_of_texts {ps : List Fragment} {ss : List String} (h : texts? ps = some ss) :
    flattenAll ps = String.join ss := by
  induction ps generalizing ss with
  | nil =>
    obtain rfl : [] = ss := Option.some.inj h
    rfl
  | cons p ps ih =>
    cases p with
    | parts qs => cases h
    | text s =>
      obtain ⟨ss', hss, rfl⟩ := Option.map_eq_some_iff.mp h
      rw [flattenAll, flatten, ih hss, String.join_cons]

theorem flattenAll_append (ps qs : List Fragment) :
    flattenAll (ps ++ qs) = flattenAll ps ++ flattenAll qs := by
  induction ps with
  | nil => simp [flattenAll]
  | cons p ps ih => rw [List.cons_append, flattenAll, flattenAll, ih, String.append_assoc]

theorem flatten_concat (ps : List Fragment) : (concat ps).flatten = flattenAll ps := by
  unfold concat
  cases h : texts? ps with
  | none => rfl
  | some ss => exact (flattenAll_of_texts h).symm

theorem flattenAll_eq_join (ps : List Fragment) : flattenAll ps = String.join (ps.map flatten) := by
  induction ps with
  | nil => rfl
  | cons p ps ih => rw [flattenAll, List.map_cons, String.join_cons, ih]

/-! ### Empty fragments -/

theorem allEmpty_eq_all (ps : List Fragment) : allEmpty ps = ps.all isEmpty := by
  induction ps with
  | nil => rfl
  | cons p ps ih => rw [allEmpty, List.all_cons, ih]

/-- **Induction over fragments**: a property that texts have, and that parts side by side
    have as soon as each of them has it, holds of every fragment. -/
theorem induct {motive : Fragment → Prop} (text : ∀ s, motive (.text s))
    (parts : ∀ ps, (∀ p ∈ ps, motive p) → motive (.parts ps)) (p : Fragment) : motive p := by
  refine @Fragment.rec motive (fun ps => ∀ p ∈ ps, motive p) text parts ?_ ?_ p
  · intro p hp
    exact absurd hp List.not_mem_nil
  · intro p ps hp hps
    exact List.forall_mem_cons.mpr ⟨hp, hps⟩

theorem join_eq_empty_iff {ss : List String} : String.join ss = "" ↔ ∀ s ∈ ss, s = "" := by
  induction ss with
  | nil => simp
  | cons s ss ih => rw [String.join_cons, String.append_eq_empty_iff, List.forall_mem_cons, ih]

theorem isEmpty_iff (p : Fragment) : p.isEmpty = true ↔ p.flatten = "" := by
  induction p using Fragment.induct with
  | text s => exact String.isEmpty_iff
  | parts ps ih =>
    -- both go through the parts one by one, so they are compared part by part
    have hparts : (Fragment.parts ps).isEmpty = ps.all isEmpty := allEmpty_eq_all ps
    have htext : (Fragment.parts ps).flatten = String.join (ps.map flatten) := flattenAll_eq_join ps
    rw [hparts, htext, List.all_eq_true, join_eq_empty_iff, List.forall_mem_map]
    exact forall₂_congr ih

/-- **Flattening joins.** The text of joined fragments is their texts in a row, however deep
    their structure is. Joining gives one text exactly if all fragments are texts, and a
    fragment is empty exactly if it flattens to the empty text. -/
theorem flattening_joins_texts :
    (∀ ps : List Fragment, (concat ps).flatten = String.join (ps.map flatten)) ∧
      (∀ ps : List Fragment, (concat ps).IsText ↔ ∀ p ∈ ps, p.IsText) ∧
      ∀ p : Fragment, p.isEmpty = true ↔ p.flatten = "" := by
  refine ⟨?_, ?_, isEmpty_iff⟩
  · intro ps
    rw [flatten_concat, flattenAll_eq_join]
  · intro ps
    exact isText_concat_iff

/-- Parts of nothing, parts of an empty text, and parts inside parts. -/
example :
    (Fragment.parts [.parts [], .parts [.text ""]]).isEmpty = true ∧
      (concat [.text "a", .parts [.text "b", .parts [.text "c"]]]).flatten = "abc" := by
  decide

end Phrasebook.Fragment
