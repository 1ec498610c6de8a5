import Mathlib.Data.List.DropRight
import Phrasebook.Proofs.Pattern.Decoded

/-! # Normal forms

    Decoding leaves some patterns out. No id but that of a `#` reads `#`, a number
    has no offset, and a text that is trimmed on the way in is one that trimming
    leaves as it is. The patterns for which all of this holds are normal.
-/

namespace Phrasebook

/-! ### Trimming twice -/

/-- Trimming drops blanks in front and then blanks behind. -/
theorem Text.trimChars_eq (cs : List Char) :
    trimChars cs = (cs.dropWhile isBlank).rdropWhile isBlank :=
  rfl

/-- What is left by trimming starts with no blank. -/
theorem Text.dropWhile_trimChars (cs : List Char) :
    (trimChars cs).dropWhile isBlank = trimChars cs := by
  rw [List.dropWhile_eq_self_iff]
  intro hl
  -- its first character is the first one behind the blanks in front
  have hfront : trimChars cs <+: cs.dropWhile isBlank := List.rdropWhile_prefix isBlank _
  have hlength : 0 < (cs.dropWhile isBlank).length := Nat.lt_of_lt_of_le hl hfront.length_le
  rw [hfront.getElem hl]
  exact List.dropWhile_get_zero_not isBlank cs hlength

theorem Text.trimChars_trimChars (cs : List Char) : trimChars (trimChars cs) = trimChars cs := by
  rw [trimChars_eq (trimChars cs), dropWhile_trimChars, trimChars_eq,
    List.rdropWhile_idempotent]

@[simp] theorem Text.trim_trim (s : String) : trim (trim s) = trim s := by
  rw [trim, toList_trim, trimChars_trimChars]
  rfl

theorem Text.trim_empty : trim "" = "" :=
  rfl

/-! ### Normal patterns -/

/-- A style that a keyword can name: a pattern of its own is a trimmed word other
    than the names of the four lengths. -/
def TemporalStyle.IsNormal : TemporalStyle → Prop
  | named pattern =>
    pattern ≠ "" ∧ Text.trim pattern = pattern ∧ pattern ∉ ["short", "medium", "long", "full"]
  | _ => True

/-- An element that is normal for itself, whatever stands inside it. -/
def Element.IsNormal : Element → Prop
  | literal _ => True
  | argument id => id ≠ "#"
  | number id offset _ => id ≠ "#" ∧ offset = 0
  | moment id _ style => id ≠ "#" ∧ style.IsNormal
  | plural id _ _ branches => id ≠ "#" ∧ ∀ b ∈ branches, Text.trim b.1 = b.1
  | select id branches => id ≠ "#" ∧ ∀ b ∈ branches, Text.trim b.1 = b.1
  | tag id attributes _ => id ≠ "#" ∧ Text.trim attributes = attributes
  | emptyTag id attributes => id ≠ "#" ∧ Text.trim attributes = attributes
  | pound => True

/-- Every element of a pattern is normal, at whatever depth. -/
def Pattern.IsNormal (p : Pattern) : Prop :=
  p.Everywhere Element.IsNormal

theorem TemporalStyle.isNormal_ofKeyword (keyword : Option String) :
    (ofKeyword keyword).IsNormal := by
  unfold ofKeyword
  -- the words of the four lengths do not get to the last case
  split
  · trivial
  · next word hword =>
    split_ifs with hmedium hshort hlong hfull
    · trivial
    · trivial
    · trivial
    · trivial
    · obtain ⟨k, -, rfl⟩ := Option.map_eq_some_iff.mp hword
      simp only [not_or] at hmedium
      refine ⟨hmedium.1, Text.trim_trim k, ?_⟩
      simp [hmedium.2, hshort, hlong, hfull]

/-! ### What is decoded is normal -/

namespace Grammar

theorem trim_of_attributes {entry : Option Json} {attributes : String}
    (h : OptionalMeans "" AttributesMean entry attributes) : Text.trim attributes = attributes := by
  refine h.satisfies (P := fun a => Text.trim a = a) Text.trim_empty fun v a ha => ?_
  obtain ⟨s, -, rfl⟩ := ha
  exact Text.trim_trim s

theorem trim_of_emptyBody {entry : Option Json} {attributes : String}
    (h : OptionalMeans "" EmptyBodyMeans entry attributes) : Text.trim attributes = attributes := by
  refine h.satisfies (P := fun a => Text.trim a = a) Text.trim_empty fun v a ha => ?_
  obtain ⟨body, -, hattributes⟩ := ha
  exact trim_of_attributes hattributes

theorem trim_of_body {inner : Json → Pattern → Prop} {entry : Option Json} {attributes : String}
    {children : Pattern}
    (h : OptionalMeans ("", []) (BodyMeans inner) entry (attributes, children)) :
    Text.trim attributes = attributes := by
  refine h.satisfies (a := (attributes, children)) (P := fun a => Text.trim a.1 = a.1)
    Text.trim_empty fun v a ha => ?_
  cases ha with
  | array hattributes _ => exact trim_of_attributes hattributes

theorem trim_of_branchesMean {inner : Json → Pattern → Prop} {members : List (String × Json)}
    {branches : List (String × Pattern)}
    (h : List.Forall₂ (BranchMeans inner) members branches) :
    ∀ b ∈ Table.ofList branches, Text.trim b.1 = b.1 := by
  intro b hb
  obtain ⟨m, -, hm⟩ := exists_of_mem_right h b (Table.mem_ofList hb)
  cases hm with
  | member _ => exact Text.trim_trim _

theorem isNormal_of_itemMeans {inner : Json → Pattern → Prop} {item : Json} {e : Element}
    (h : ItemMeans inner item e) : e.IsNormal := by
  -- the decoder trims keys and attributes and never leaves an element with the id `#`
  cases h with
  | text => trivial
  | array h =>
    cases h with
    | pound => trivial
    | argument _ hid _ => exact hid
    | typed _ hid _ _ h =>
      cases h with
      | moment => exact ⟨hid, TemporalStyle.isNormal_ofKeyword _⟩
      | number => exact ⟨hid, rfl⟩
      | styled => exact ⟨hid, rfl⟩
      | plural _ _ hbranches => exact ⟨hid, trim_of_branchesMean hbranches⟩
      | select _ hbranches => exact ⟨hid, trim_of_branchesMean hbranches⟩
      | tag hbody => exact ⟨hid, trim_of_body hbody⟩
      | emptyTag hbody => exact ⟨hid, trim_of_emptyBody hbody⟩

/-- **What a value means is normal.** -/
theorem Denotes.isNormal {v : Json} {p : Pattern} (h : Denotes v p) : p.IsNormal :=
  h.everywhere fun _ _ _ hmeans => isNormal_of_itemMeans hmeans

end Grammar

end Phrasebook
