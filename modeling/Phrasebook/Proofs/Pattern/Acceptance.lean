import Phrasebook.Proofs.Pattern.Grammar

/-! # What the decoder accepts

    The decoder follows the grammar: it succeeds on the values that are patterns
    and gives each the pattern that it means.
-/

namespace Phrasebook

open Grammar

/-! ### Words and optional entries -/

theorem ArgumentType.ofKeyword?_eq_some_iff {word : String} {type : ArgumentType} :
    ofKeyword? word = some type ↔ (word, type) ∈ words := by
  constructor
  · intro h
    unfold ofKeyword? at h
    split at h
    · next half _ hhalf =>
      unfold TemporalKind.ofKeyword? at hhalf
      split_ifs at hhalf <;> simp_all [words]
    · next rules _ hrules =>
      unfold PluralKind.ofKeyword? at hrules
      split_ifs at hrules <;> simp_all [words]
    · have hkeyed : words = words.take 4 ++ keyed := rfl
      rw [hkeyed]
      exact List.mem_append_right _ (Table.mem_of_lookup h)
  · intro h
    have hall : ∀ entry ∈ words, ofKeyword? entry.1 = some entry.2 := by decide
    exact hall _ h

namespace Grammar

variable {α : Type} {fallback a : α} {meaning : Json → α → Prop}

@[simp] theorem optionalMeans_none_iff : OptionalMeans fallback meaning none a ↔ a = fallback := by
  constructor
  · intro h
    cases h
    rfl
  · rintro rfl
    exact .missing

@[simp] theorem optionalMeans_some_iff {v : Json} :
    OptionalMeans fallback meaning (some v) a ↔ (v = .null ∧ a = fallback) ∨ meaning v a := by
  constructor
  · intro h
    cases h with
    | null => exact Or.inl ⟨rfl, rfl⟩
    | given h => exact Or.inr h
  · rintro (⟨rfl, rfl⟩ | h)
    · exact .null
    · exact .given h

end Grammar

namespace Pattern

theorem decodeOffset_eq_ok_iff {id kind : String} {rest : List Json} {offset : Int64} :
    decodeOffset id kind rest = .ok offset ↔ OptionalMeans 0 WordMeans rest[0]? offset := by
  -- only an integer can be an offset; null and a missing entry are the fallback
  cases rest with
  | nil => simp [decodeOffset, eq_comm]
  | cons v rest =>
    cases v with
    | null => simp [decodeOffset, WordMeans, eq_comm]
    | integer n =>
      have hword : WordMeans (.integer n) offset ↔ Text.word? n = some offset := by
        rw [Text.word?_eq_some_iff, WordMeans, Json.integer.injEq]
      rw [decodeOffset, List.getElem?_cons_zero, optionalMeans_some_iff, hword]
      cases Text.word? n <;> simp
    | _ => simp [decodeOffset, WordMeans]

theorem decodeAttributes_eq_ok_iff {id kind : String} {body : List Json} {a : String} :
    decodeAttributes id kind body = .ok a ↔ OptionalMeans "" AttributesMean body[0]? a := by
  cases body with
  | nil => simp [decodeAttributes, eq_comm]
  | cons v rest => cases v <;> simp [decodeAttributes, AttributesMean, eq_comm]

theorem decodeEmptyTag_eq_ok_iff {id kind : String} {rest : List Json} {e : Element} :
    decodeEmptyTag id kind rest = .ok e ↔
      ∃ a, OptionalMeans "" EmptyBodyMeans rest[0]? a ∧ .emptyTag id a = e := by
  cases rest with
  | nil => simp [decodeEmptyTag]
  | cons v rest =>
    cases v with
    | array body =>
      have hbody : ∀ a, EmptyBodyMeans (.array body) a ↔
          decodeAttributes id kind body = .ok a := by
        intro a
        rw [decodeAttributes_eq_ok_iff]
        simp [EmptyBodyMeans]
      rw [decodeEmptyTag, map_eq_ok_iff]
      simp [hbody]
    | _ => simp [decodeEmptyTag, EmptyBodyMeans]

/-- What the decoder gives for a value, as a relation to put inside the rules. -/
def Decodes (v : Json) (p : Pattern) : Prop :=
  ofJson v = .ok p

theorem decodeBranches_eq_ok_iff {members : List (String × Json)}
    {branches : List (String × Pattern)} :
    decodeBranches members = .ok branches ↔
      List.Forall₂ (BranchMeans Decodes) members branches := by
  induction members generalizing branches with
  | nil => simp [decodeBranches, eq_comm]
  | cons m members ih =>
    obtain ⟨key, v⟩ := m
    rw [decodeBranches]
    simp only [bind_eq_ok_iff, ih]
    constructor
    · rintro ⟨p, hp, bs, hbs, h⟩
      cases h
      exact .cons (.member hp) hbs
    · intro h
      cases h with
      | cons hm hms =>
        cases hm with
        | member hp => exact ⟨_, hp, _, hms, rfl⟩

/-! ### One array -/

theorem bodyMeans_iff {inner : Json → Pattern → Prop} {v : Json} {a : String × Pattern} :
    BodyMeans inner v a ↔
      ∃ body, v = .array body ∧ OptionalMeans "" AttributesMean body[0]? a.1 ∧
        OptionalMeans [] inner body[1]? a.2 := by
  constructor
  · intro h
    cases h with
    | array hattributes hchildren => exact ⟨_, rfl, hattributes, hchildren⟩
  · rintro ⟨body, rfl, hattributes, hchildren⟩
    exact .array hattributes hchildren

section
variable {id word : String} {rest : List Json} {e : Element}

theorem decodeArgument_plural_iff {rules : PluralKind} (hid : id ≠ "#")
    (hword : ArgumentType.ofKeyword? word = some (.plural rules)) :
    decodeArgument (.text id :: .text word :: rest) = .ok e ↔
      TypedMeans Decodes (.plural rules) id (.text id :: .text word :: rest) e := by
  unfold decodeArgument
  rw [if_neg hid]
  dsimp only
  rw [hword]
  simp only [bind_eq_ok_iff, decodeOffset_eq_ok_iff]
  constructor
  · -- the order of the decoder: first the offset, then the branches
    rintro ⟨offset, hoffset, h⟩
    split at h
    · obtain ⟨branches, hbranches, h⟩ := bind_eq_ok_iff.mp h
      cases h
      exact .plural hoffset rfl (decodeBranches_eq_ok_iff.mp hbranches)
    · cases h
  · intro h
    cases h with
    | plural hoffset hobject hbranches =>
      refine ⟨_, hoffset, ?_⟩
      match rest, hobject with
      | _ :: .object _ :: _, rfl =>
        exact bind_eq_ok_iff.mpr ⟨_, decodeBranches_eq_ok_iff.mpr hbranches, rfl⟩

theorem decodeArgument_select_iff (hid : id ≠ "#")
    (hword : ArgumentType.ofKeyword? word = some .select) :
    decodeArgument (.text id :: .text word :: rest) = .ok e ↔
      TypedMeans Decodes .select id (.text id :: .text word :: rest) e := by
  unfold decodeArgument
  rw [if_neg hid]
  dsimp only
  rw [hword]
  dsimp only
  constructor
  · intro h
    split at h
    · obtain ⟨branches, hbranches, h⟩ := bind_eq_ok_iff.mp h
      cases h
      exact .select rfl (decodeBranches_eq_ok_iff.mp hbranches)
    · cases h
  · intro h
    cases h with
    | select hobject hbranches =>
      match rest, hobject with
      | .object _ :: _, rfl =>
        exact bind_eq_ok_iff.mpr ⟨_, decodeBranches_eq_ok_iff.mpr hbranches, rfl⟩

/-- The body of a tag is decoded entry by entry, the children before the attributes. -/
theorem decodeArgument_tag_iff (hid : id ≠ "#")
    (hword : ArgumentType.ofKeyword? word = some .tag) :
    decodeArgument (.text id :: .text word :: rest) = .ok e ↔
      ∃ attributes children,
        OptionalMeans ("", []) (BodyMeans Decodes) rest[0]? (attributes, children) ∧
        .tag id attributes children = e := by
  have hnull : ∀ p, ¬ Decodes .null p := fun p h => by cases h
  unfold decodeArgument
  rw [if_neg hid]
  dsimp only
  rw [hword]
  dsimp only
  -- no body, null, and then arrays by how much of a body they are
  split
  · simp
  · simp [bodyMeans_iff]
  · rw [map_eq_ok_iff]
    simp [bodyMeans_iff, decodeAttributes_eq_ok_iff, hnull]
  · next attributes children more others hchildren =>
    have hnotnull : children ≠ .null := hchildren
    simp only [bind_eq_ok_iff, decodeAttributes_eq_ok_iff]
    constructor
    · rintro ⟨es, hes, a, ha, h⟩
      cases h
      exact ⟨a, es, .given (.array ha (.given hes)), rfl⟩
    · rintro ⟨a, es, hbody, rfl⟩
      simp only [List.getElem?_cons_zero, optionalMeans_some_iff, bodyMeans_iff] at hbody
      simp [hnotnull] at hbody
      exact ⟨es, hbody.2, a, by simpa using hbody.1, rfl⟩
  · next body _ _ hshort =>
    -- the cases above have left a body of one entry at most
    have hmissing : body[1]? = none := by
      match body, hshort with
      | [], _ => rfl
      | [_], _ => rfl
      | v :: w :: more, h => exact (h v w more rfl).elim
    rw [map_eq_ok_iff]
    simp [bodyMeans_iff, decodeAttributes_eq_ok_iff, hmissing]
  · next v _ hnotnull _ _ harray =>
    have hgiven : v ≠ .null := hnotnull
    have hother : ∀ body, v ≠ .array body := harray
    simp [bodyMeans_iff, hgiven, hother]

/-- The style keyword of an element stands behind its id and its type. -/
theorem keyword?_eq (v w : Json) : keyword? rest = (v :: w :: rest)[2]?.bind Json.text? := by
  cases rest <;> rfl

/-- An array that starts with an id and the word for a type is decoded as what it
    means as an element of the type. -/
theorem decodeArgument_typed_iff {type : ArgumentType} (hid : id ≠ "#")
    (hword : ArgumentType.ofKeyword? word = some type) :
    decodeArgument (.text id :: .text word :: rest) = .ok e ↔
      TypedMeans Decodes type id (.text id :: .text word :: rest) e := by
  cases type
  case plural rules => exact decodeArgument_plural_iff hid hword
  case select => exact decodeArgument_select_iff hid hword
  case tag =>
    rw [decodeArgument_tag_iff hid hword]
    constructor
    · rintro ⟨attributes, children, hbody, rfl⟩
      exact .tag hbody
    · intro h
      cases h with
      | tag hbody => exact ⟨_, _, hbody, rfl⟩
  all_goals
    unfold decodeArgument
    rw [if_neg hid]
    dsimp only
    rw [hword]
    dsimp only
  case moment half =>
    rw [keyword?_eq (.text id) (.text word)]
    constructor
    · intro h
      cases h
      exact .moment
    · intro h
      cases h
      rfl
  case number =>
    rw [keyword?_eq (.text id) (.text word)]
    constructor
    · intro h
      cases h
      exact .number
    · intro h
      cases h
      rfl
  case styled style =>
    constructor
    · intro h
      cases h
      exact .styled
    · intro h
      cases h
      rfl
  case emptyTag =>
    rw [decodeEmptyTag_eq_ok_iff]
    constructor
    · rintro ⟨a, ha, rfl⟩
      exact .emptyTag ha
    · intro h
      cases h with
      | emptyTag hbody => exact ⟨_, hbody, rfl⟩

theorem argumentMeans_of_decodeArgument {entries : List Json}
    (h : decodeArgument entries = .ok e) : ArgumentMeans Decodes entries e := by
  -- `h` is kept for the elements that have a type
  have hstep := h
  unfold decodeArgument at hstep
  split at hstep
  · split at hstep
    · next hid =>
      cases hstep
      exact hid ▸ .pound
    · next hid =>
      split at hstep
      · cases hstep
        exact .argument rfl hid (Or.inl rfl)
      · cases hstep
        exact .argument rfl hid (Or.inr rfl)
      · next word rest =>
        cases hword : ArgumentType.ofKeyword? word with
        | none =>
          rw [hword] at hstep
          cases hstep
        | some type =>
          exact .typed rfl hid rfl (ArgumentType.ofKeyword?_eq_some_iff.mp hword)
            ((decodeArgument_typed_iff hid hword).mp h)
      · cases hstep
  · cases hstep

/-- An array that means an argument element is decoded to it. -/
theorem decodeArgument_of_means {entries : List Json} (h : ArgumentMeans Decodes entries e) :
    decodeArgument entries = .ok e := by
  cases h with
  | pound => rfl
  | argument hid hpound htype =>
    obtain ⟨tail, rfl⟩ := List.head?_eq_some_iff.mp (List.head?_eq_getElem? ▸ hid)
    unfold decodeArgument
    rw [if_neg hpound]
    cases tail with
    | nil => rfl
    | cons v tail =>
      -- an entry in the place of the type can only be a null
      have hnull : v = .null := by
        rcases htype with hnone | hnull
        · cases hnone
        · exact Option.some.inj hnull
      subst hnull
      rfl
  | typed hid hpound htype hword h =>
    obtain ⟨tail, rfl⟩ := List.head?_eq_some_iff.mp (List.head?_eq_getElem? ▸ hid)
    cases tail with
    | nil => cases htype
    | cons v tail =>
      obtain rfl : v = .text _ := Option.some.inj htype
      exact (decodeArgument_typed_iff hpound (ArgumentType.ofKeyword?_eq_some_iff.mpr hword)).mpr h

end

theorem decodeItems_eq_ok_iff {items : List Json} {p : Pattern} :
    decodeItems items = .ok p ↔ List.Forall₂ (ItemMeans Decodes) items p := by
  induction items generalizing p with
  | nil => simp [decodeItems, eq_comm]
  | cons item items ih =>
    constructor
    · intro h
      cases item with
      | text s =>
        obtain ⟨es, hes, hp⟩ := bind_eq_ok_iff.mp h
        cases hp
        exact .cons .text (ih.mp hes)
      | array entries =>
        obtain ⟨e, he, h⟩ := bind_eq_ok_iff.mp h
        obtain ⟨es, hes, hp⟩ := bind_eq_ok_iff.mp h
        cases hp
        exact .cons (.array (argumentMeans_of_decodeArgument he)) (ih.mp hes)
      | _ => cases h
    · intro h
      cases h with
      | cons hitem hitems =>
        cases hitem with
        | text => exact bind_eq_ok_iff.mpr ⟨_, ih.mpr hitems, rfl⟩
        | array he =>
          refine bind_eq_ok_iff.mpr ⟨_, decodeArgument_of_means he, ?_⟩
          exact bind_eq_ok_iff.mpr ⟨_, ih.mpr hitems, rfl⟩

theorem all_isItem_of_itemsMean {items : List Json} {p : Pattern}
    (h : List.Forall₂ (ItemMeans Decodes) items p) : items.all isItem = true := by
  rw [List.all_eq_true]
  intro item hitem
  obtain ⟨e, he⟩ := exists_forall₂_iff.mp ⟨p, h⟩ item hitem
  cases he with
  | text => rfl
  | array _ => rfl

theorem decodes_iff_items {v : Json} {p : Pattern} :
    Decodes v p ↔
      ∃ items, v = .array items ∧ List.Forall₂ (ItemMeans Decodes) items p := by
  constructor
  · intro h
    cases v with
    | array items =>
      unfold Decodes at h
      rw [ofJson] at h
      split at h
      · exact ⟨items, rfl, decodeItems_eq_ok_iff.mp h⟩
      · cases h
    | _ => cases h
  · rintro ⟨items, rfl, h⟩
    unfold Decodes
    rw [ofJson, if_pos (all_isItem_of_itemsMean h)]
    exact decodeItems_eq_ok_iff.mpr h

/-- What the decoder gives for a value is what the value means. -/
theorem ofJson_eq_ok_iff {v : Json} {p : Pattern} : ofJson v = .ok p ↔ Denotes v p :=
  iff_denotes_of_rules (R := Decodes) fun _ _ => decodes_iff_items

/-- **The decoder accepts the grammar**: it succeeds on a value exactly when the value
    is a pattern, and then gives the pattern that the value means. -/
theorem decoding_follows_grammar (v : Json) :
    ((∃ p, ofJson v = .ok p) ↔ IsPattern v) ∧ ∀ p, ofJson v = .ok p ↔ Denotes v p := by
  have hmeaning : ∀ p, ofJson v = .ok p ↔ Denotes v p := fun p => ofJson_eq_ok_iff
  refine ⟨?_, hmeaning⟩
  rw [← exists_denotes_iff]
  exact exists_congr hmeaning

end Pattern

end Phrasebook
