import Phrasebook.Proofs.Pattern.NormalForm

/-! # Writing patterns down

    An encoder from patterns to JSON values. Decoding takes a value that was
    written for a normal pattern back to the pattern, so the normal patterns are
    exactly those that can be decoded.
-/

namespace Phrasebook

/-! ### Values that a text can hold -/

/-- A value that a JSON text denotes: integers fit 64 bits, signed or unsigned, other
    numbers are finite, and the members of objects are in ascending order. -/
inductive Json.IsProper : Json → Prop
  | null : IsProper .null
  | boolean {b : Bool} : IsProper (.boolean b)
  | integer {n : Int} (hle : -2 ^ 63 ≤ n) (hlt : n < 2 ^ 64) : IsProper (.integer n)
  | real {x : Binary64} (h : x.isFinite = true) : IsProper (.real x)
  | text {s : String} : IsProper (.text s)
  | array {items : List Json} (h : ∀ item ∈ items, IsProper item) : IsProper (.array items)
  | object {members : List (String × Json)} (hascending : Table.Ascending members)
      (h : ∀ m ∈ members, IsProper m.2) : IsProper (.object members)

@[simp] theorem Json.isProper_text (s : String) : (text s).IsProper :=
  .text

@[simp] theorem Json.isProper_array_iff {items : List Json} :
    (array items).IsProper ↔ ∀ item ∈ items, item.IsProper := by
  constructor
  · intro h
    cases h with
    | array h => exact h
  · exact .array

/-! ### The encoder -/

def PluralKind.word : PluralKind → String
  | cardinal => "plural"
  | ordinal => "selectordinal"

mutual

/-- The item for an element. All styles of numbers are written behind one type. -/
def Element.toJson : Element → Json
  | .literal text => .text text
  | .argument id => .array [.text id]
  | .number id _ style => .array [.text id, .text "number", .text style.name]
  | .moment id half style => .array [.text id, .text half.name, .text style.name]
  | .plural id kind offset branches =>
    .array [.text id, .text kind.word, .integer offset.toInt,
      .object (Branches.toMembers branches)]
  | .select id branches =>
    .array [.text id, .text "select", .object (Branches.toMembers branches)]
  | .tag id attributes children =>
    .array [.text id, .text "tag",
      .array [.text attributes, .array (Pattern.toItems children)]]
  | .emptyTag id attributes =>
    .array [.text id, .text "self-closing-tag", .array [.text attributes]]
  | .pound => .array [.text "#"]

def Pattern.toItems : List Element → List Json
  | [] => []
  | e :: es => e.toJson :: Pattern.toItems es

def Branches.toMembers : List (String × List Element) → List (String × Json)
  | [] => []
  | (key, es) :: bs => (key, .array (Pattern.toItems es)) :: Branches.toMembers bs

end

def Pattern.toJson (p : Pattern) : Json :=
  .array (toItems p)

theorem Pattern.toItems_eq_map (p : Pattern) : toItems p = p.map Element.toJson := by
  induction p with
  | nil => rfl
  | cons e es ih => rw [toItems, ih, List.map_cons]

theorem Branches.toMembers_eq_map (bs : Branches) :
    toMembers bs = bs.map fun b => (b.1, Pattern.toJson b.2) := by
  induction bs with
  | nil => rfl
  | cons b bs ih => rw [toMembers, ih, List.map_cons, Pattern.toJson]

/-! ### Encoded values are proper -/

theorem Branches.isProper_object {bs : Branches} (hascending : Table.Ascending bs)
    (h : ∀ b ∈ bs, (Pattern.toJson b.2).IsProper) : (Json.object (toMembers bs)).IsProper := by
  rw [toMembers_eq_map]
  refine .object (List.pairwise_map.mpr hascending) fun m hm => ?_
  obtain ⟨b, hb, rfl⟩ := List.mem_map.mp hm
  exact h b hb

theorem Pattern.isProper_of_items {p : Pattern} (h : ∀ e ∈ p, e.toJson.IsProper) :
    p.toJson.IsProper := by
  refine .array fun item hitem => ?_
  rw [toItems_eq_map] at hitem
  obtain ⟨e, he, rfl⟩ := List.mem_map.mp hitem
  exact h e he

theorem Element.isProper_toJson (e : Element) : Pattern.OrderedParts e → e.toJson.IsProper := by
  induction e using Element.induct with
  | literal text => simp [toJson]
  | argument id => simp [toJson]
  | number id offset style => simp [toJson]
  | moment id half style => simp [toJson]
  | plural id kind offset branches ih =>
    intro hordered
    have hobject : (Json.object (Branches.toMembers branches)).IsProper :=
      Branches.isProper_object hordered.ascending fun b hb => Pattern.isProper_of_items
        fun e he => ih b hb e he (Pattern.ordered_iff.mp (hordered.branches b hb) e he)
    have hoffset : (Json.integer offset.toInt).IsProper := by
      have hle := offset.le_toInt
      have hlt := offset.toInt_lt
      exact .integer hle (by omega)
    simp [toJson, hobject, hoffset]
  | select id branches ih =>
    intro hordered
    have hobject : (Json.object (Branches.toMembers branches)).IsProper :=
      Branches.isProper_object hordered.ascending fun b hb => Pattern.isProper_of_items
        fun e he => ih b hb e he (Pattern.ordered_iff.mp (hordered.branches b hb) e he)
    simp [toJson, hobject]
  | tag id attributes children ih =>
    intro hordered
    have hchildren : (Pattern.toJson children).IsProper := Pattern.isProper_of_items
      fun e he => ih e he (Pattern.ordered_iff.mp hordered.children e he)
    rw [Pattern.toJson, Json.isProper_array_iff] at hchildren
    simpa [toJson] using hchildren
  | emptyTag id attributes => simp [toJson]
  | pound => simp [toJson]

/-- What is written for an ordered pattern is a proper value. -/
theorem Pattern.isProper_toJson {p : Pattern} (h : p.Ordered) : p.toJson.IsProper :=
  isProper_of_items fun e he => e.isProper_toJson (ordered_iff.mp h e he)

/-! ### Encoded values mean their patterns -/

theorem NumberStyle.ofKeyword_name (style : NumberStyle) : ofKeyword (some style.name) = style := by
  cases style <;> rfl

theorem TemporalStyle.ofKeyword_name {style : TemporalStyle} (h : style.IsNormal) :
    ofKeyword (some style.name) = style := by
  cases style with
  | named pattern =>
    obtain ⟨hempty, htrim, hnames⟩ := h
    simp only [List.mem_cons, List.not_mem_nil, or_false, not_or] at hnames
    simp [ofKeyword, name, htrim, hempty, hnames]
  | _ => rfl

namespace Grammar

/-- An element that a word names is what an array behind an id and the word means. -/
theorem ItemMeans.typed {inner : Json → Pattern → Prop} {id word : String} {type : ArgumentType}
    {rest : List Json} {e : Element} (hid : id ≠ "#") (hword : (word, type) ∈ words)
    (h : TypedMeans inner type id (.text id :: .text word :: rest) e) :
    ItemMeans inner (.array (.text id :: .text word :: rest)) e :=
  .array (.typed rfl hid rfl hword h)

theorem denotes_toJson_of_items {p : Pattern} (h : ∀ e ∈ p, ItemMeans Denotes e.toJson e) :
    Denotes p.toJson p := by
  refine .array ?_
  rw [Pattern.toItems_eq_map, List.forall₂_map_left_iff]
  exact List.forall₂_same.mpr h

/-- The members for branches with trimmed keys mean the branches. -/
theorem branchesMean_toMembers {bs : Branches} (hkeys : ∀ b ∈ bs, Text.trim b.1 = b.1)
    (h : ∀ b ∈ bs, Denotes (Pattern.toJson b.2) b.2) :
    List.Forall₂ (BranchMeans Denotes) (Branches.toMembers bs) bs := by
  rw [Branches.toMembers_eq_map, List.forall₂_map_left_iff]
  refine List.forall₂_same.mpr fun b hb => ?_
  obtain ⟨key, p⟩ := b
  have hmember : BranchMeans Denotes (key, Pattern.toJson p) (Text.trim key, p) :=
    .member (h _ hb)
  rwa [hkeys _ hb] at hmember

/-- The branches of an ordered and normal choice are what its members mean, if that is
    so of all elements in them. -/
theorem branchesMean_of_choice {choice : Element} (hordered : Pattern.OrderedParts choice)
    (hnormal : Pattern.Throughout Element.IsNormal choice)
    (hkeys : ∀ b ∈ choice.branches, Text.trim b.1 = b.1)
    (ih : ∀ b ∈ choice.branches, ∀ e ∈ b.2, Pattern.OrderedParts e →
      Pattern.Throughout Element.IsNormal e → ItemMeans Denotes e.toJson e) :
    List.Forall₂ (BranchMeans Denotes) (Branches.toMembers choice.branches) choice.branches := by
  refine branchesMean_toMembers hkeys fun b hb => denotes_toJson_of_items fun e he => ?_
  have horderedInside := Pattern.ordered_iff.mp (hordered.branches b hb)
  have hnormalInside := Pattern.everywhere_iff.mp (hnormal.branches b hb)
  exact ih b hb e he (horderedInside e he) (hnormalInside e he)

/-- What is written for a normal element means the element. -/
theorem itemMeans_toJson (e : Element) : Pattern.OrderedParts e →
    Pattern.Throughout Element.IsNormal e → ItemMeans Denotes e.toJson e := by
  -- induction over the element; the style of a leaf comes back from the name that is written
  induction e using Element.induct with
  | literal text => exact fun _ _ => .text
  | argument id => exact fun _ hnormal => .array (.argument rfl hnormal.self (Or.inl rfl))
  | number id offset style =>
    intro _ hnormal
    obtain ⟨hid, rfl⟩ := hnormal.self
    have hmeans : TypedMeans Denotes .number id
        [.text id, .text "number", .text style.name]
        (.number id 0 (.ofKeyword (some style.name))) := .number
    rw [NumberStyle.ofKeyword_name] at hmeans
    exact .typed hid (by simp [words]) hmeans
  | moment id half style =>
    intro _ hnormal
    obtain ⟨hid, hstyle⟩ := hnormal.self
    have hword : (half.name, .moment half) ∈ words := by
      cases half <;> simp [words, TemporalKind.name]
    have hmeans : TypedMeans Denotes (.moment half) id
        [.text id, .text half.name, .text style.name]
        (.moment id half (.ofKeyword (some style.name))) := .moment
    rw [TemporalStyle.ofKeyword_name hstyle] at hmeans
    exact .typed hid hword hmeans
  | plural id kind offset branches ih =>
    intro hordered hnormal
    obtain ⟨hid, hkeys⟩ := hnormal.self
    have hword : (kind.word, .plural kind) ∈ words := by
      cases kind <;> simp [words, PluralKind.word]
    have htable : Table.ofList branches = branches :=
      Table.ofList_of_ascending hordered.ascending
    have hbranches := branchesMean_of_choice hordered hnormal hkeys ih
    have hmeans : TypedMeans Denotes (.plural kind) id
        [.text id, .text kind.word, .integer offset.toInt, .object (Branches.toMembers branches)]
        (.plural id kind offset (Table.ofList branches)) :=
      .plural (.given rfl) rfl hbranches
    rw [htable] at hmeans
    exact .typed hid hword hmeans
  | select id branches ih =>
    intro hordered hnormal
    obtain ⟨hid, hkeys⟩ := hnormal.self
    have htable : Table.ofList branches = branches :=
      Table.ofList_of_ascending hordered.ascending
    have hbranches := branchesMean_of_choice hordered hnormal hkeys ih
    have hmeans : TypedMeans Denotes .select id
        [.text id, .text "select", .object (Branches.toMembers branches)]
        (.select id (Table.ofList branches)) :=
      .select rfl hbranches
    rw [htable] at hmeans
    exact .typed hid (by simp [words]) hmeans
  | tag id attributes children ih =>
    intro hordered hnormal
    obtain ⟨hid, hattributes⟩ := hnormal.self
    have hchildren : Denotes (Pattern.toJson children) children := by
      refine denotes_toJson_of_items fun e he => ih e he ?_ ?_
      · exact Pattern.ordered_iff.mp hordered.children e he
      · exact Pattern.everywhere_iff.mp hnormal.children e he
    have hbody : BodyMeans Denotes (.array [.text attributes, (Pattern.toJson children)])
        (attributes, children) :=
      .array (.given ⟨attributes, rfl, hattributes.symm⟩) (.given hchildren)
    exact .typed hid (by simp [words]) (.tag (.given hbody))
  | emptyTag id attributes =>
    intro _ hnormal
    obtain ⟨hid, hattributes⟩ := hnormal.self
    have hbody : EmptyBodyMeans (.array [.text attributes]) attributes :=
      ⟨_, rfl, .given ⟨attributes, rfl, hattributes.symm⟩⟩
    exact .typed hid (by simp [words]) (.emptyTag (.given hbody))
  | pound => exact fun _ _ => .array .pound

end Grammar

/-- What is written for an ordered and normal pattern means the pattern. -/
theorem Pattern.denotes_toJson {p : Pattern} (hordered : p.Ordered) (hnormal : p.IsNormal) :
    Grammar.Denotes p.toJson p := by
  refine Grammar.denotes_toJson_of_items fun e he => Grammar.itemMeans_toJson e ?_ ?_
  · exact ordered_iff.mp hordered e he
  · exact everywhere_iff.mp hnormal e he

namespace Pattern

/-- **Normal forms**: every decoded pattern is normal, and every normal pattern, its
    branches in order, is what decoding gives for the value that is written for it. -/
theorem normal_forms_of_decoding :
    (∀ (v : Json) (p : Pattern), ofJson v = .ok p → p.IsNormal) ∧
      ∀ p : Pattern, p.Ordered → p.IsNormal → p.toJson.IsProper ∧ ofJson p.toJson = .ok p := by
  constructor
  · intro v p h
    exact (ofJson_eq_ok_iff.mp h).isNormal
  · intro p hordered hnormal
    refine ⟨isProper_toJson hordered, ?_⟩
    exact ofJson_eq_ok_iff.mpr (denotes_toJson hordered hnormal)

/-- A date in a pattern of its own, then a plural with an offset around a tag. -/
def invitation : Pattern :=
  [.literal "On ", .moment "day" .date (.named "%Y"),
    .plural "guests" .cardinal 1
      [("=1", []), ("other", [.literal " with ", .tag "b" "x" [.pound, .argument "who"]])]]

/-- A date is decoded to a normal pattern, whatever blanks stand around its style. The
    invitation comes back from the value that is written for it. -/
theorem normal_form_of_invitation :
    IsNormal [.moment "day" .date (.named "%Y")] ∧
      (toJson invitation).IsProper ∧ ofJson (toJson invitation) = .ok invitation := by
  -- the first pattern is normal as a decoded one, the second is shown to be normal and ordered
  have hdecoded : ofJson (.array [.array [.text "day", .text "date", .text " %Y "]]) =
      .ok [.moment "day" .date (.named "%Y")] := rfl
  have hordered : Ordered invitation := by
    simp [invitation, orderedParts_iff, Element.branches, Element.children]
    exact List.pairwise_pair.mpr (by decide)
  have hnormal : IsNormal invitation := by
    simp [invitation, IsNormal, throughout_iff, Element.branches, Element.children,
      Element.IsNormal, TemporalStyle.IsNormal]
    exact ⟨rfl, ⟨rfl, rfl⟩, rfl⟩
  exact ⟨normal_forms_of_decoding.1 _ _ hdecoded,
    normal_forms_of_decoding.2 invitation hordered hnormal⟩

end Pattern

end Phrasebook
