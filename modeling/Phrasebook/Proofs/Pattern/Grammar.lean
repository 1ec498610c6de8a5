import Phrasebook.Pattern.Decode
import Phrasebook.Proofs.Traversal

/-! # The grammar of patterns

    Which JSON values are patterns and what each of them means, as relations that
    know nothing of a decoder. A rule names the entries of an array that it reads
    by their numbers, counted from zero, and leaves all other entries free.

    The rules for one array take as a parameter what is said of the values inside
    it; `IsPattern` and `Denotes` tie that knot. Nothing but `Denotes` solves its
    rules, so a function is shown to follow the grammar by showing that it follows
    the rules for one array.
-/

namespace Phrasebook.Grammar

/-! ### Entries that may be left out -/

/-- An entry has a form or is left out, by being null or by not being there. -/
inductive Optional (form : Json → Prop) : Option Json → Prop
  | missing : Optional form none
  | null : Optional form (some .null)
  | given {v : Json} (h : form v) : Optional form (some v)

/-- An entry has a meaning; one that is left out means the fallback. -/
inductive OptionalMeans {α : Type} (fallback : α) (meaning : Json → α → Prop) :
    Option Json → α → Prop
  | missing : OptionalMeans fallback meaning none fallback
  | null : OptionalMeans fallback meaning (some .null) fallback
  | given {v : Json} {a : α} (h : meaning v a) : OptionalMeans fallback meaning (some v) a

def IsText (v : Json) : Prop :=
  ∃ s, v = .text s

def IsWord (v : Json) : Prop :=
  ∃ n, v = .integer n ∧ -2 ^ 63 ≤ n ∧ n < 2 ^ 63

def WordMeans (v : Json) (n : Int64) : Prop :=
  v = .integer n.toInt

def AttributesMean (v : Json) (attributes : String) : Prop :=
  ∃ s, v = .text s ∧ attributes = Text.trim s

/-- The body of a tag that closes itself: an array that starts with attributes. -/
def IsEmptyBody (v : Json) : Prop :=
  ∃ body, v = .array body ∧ Optional IsText body[0]?

def EmptyBodyMeans (v : Json) (attributes : String) : Prop :=
  ∃ body, v = .array body ∧ OptionalMeans "" AttributesMean body[0]? attributes

/-! ### What is a pattern -/

/-- The body of a tag: an array of attributes and children. -/
inductive IsBody (inner : Json → Prop) : Json → Prop
  | array {body : List Json} (hattributes : Optional IsText body[0]?)
      (hchildren : Optional inner body[1]?) : IsBody inner (.array body)

/-- An array is an argument element: its first entry is an id, and what the entry
    behind it asks for is there. -/
inductive IsArgument (inner : Json → Prop) : List Json → Prop
  | pound {rest : List Json} : IsArgument inner (.text "#" :: rest)
  | argument {entries : List Json} {id : String} (hid : entries[0]? = some (.text id))
      (htype : entries[1]? = none ∨ entries[1]? = some .null) : IsArgument inner entries
  | leaf {entries : List Json} {id word : String} (hid : entries[0]? = some (.text id))
      (htype : entries[1]? = some (.text word))
      (hword : word ∈ ["date", "time", "number", "spellout", "ordinal", "duration"]) :
      IsArgument inner entries
  | plural {entries : List Json} {id word : String} {members : List (String × Json)}
      (hid : entries[0]? = some (.text id)) (htype : entries[1]? = some (.text word))
      (hword : word ∈ ["plural", "selectordinal"]) (hoffset : Optional IsWord entries[2]?)
      (hbranches : entries[3]? = some (.object members)) (hinner : ∀ m ∈ members, inner m.2) :
      IsArgument inner entries
  | select {entries : List Json} {id : String} {members : List (String × Json)}
      (hid : entries[0]? = some (.text id)) (htype : entries[1]? = some (.text "select"))
      (hbranches : entries[2]? = some (.object members)) (hinner : ∀ m ∈ members, inner m.2) :
      IsArgument inner entries
  | tag {entries : List Json} {id : String} (hid : entries[0]? = some (.text id))
      (htype : entries[1]? = some (.text "tag")) (hbody : Optional (IsBody inner) entries[2]?) :
      IsArgument inner entries
  | emptyTag {entries : List Json} {id : String} (hid : entries[0]? = some (.text id))
      (htype : entries[1]? = some (.text "self-closing-tag"))
      (hbody : Optional IsEmptyBody entries[2]?) : IsArgument inner entries

/-- An item of a pattern: literal text or an argument element. -/
inductive IsItem (inner : Json → Prop) : Json → Prop
  | text {s : String} : IsItem inner (.text s)
  | array {entries : List Json} (h : IsArgument inner entries) : IsItem inner (.array entries)

/-- **The JSON values that are patterns**: arrays of items, whose branches and
    children are patterns again. -/
inductive IsPattern : Json → Prop
  | array {items : List Json} (h : ∀ item ∈ items, IsItem IsPattern item) :
      IsPattern (.array items)

/-! ### What a pattern means -/

def words : List (String × ArgumentType) :=
  [("date", .moment .date), ("time", .moment .time), ("plural", .plural .cardinal),
    ("selectordinal", .plural .ordinal), ("number", .number), ("spellout", .styled .spellout),
    ("ordinal", .styled .ordinal), ("duration", .styled .duration), ("select", .select),
    ("tag", .tag), ("self-closing-tag", .emptyTag)]

/-- A member of an object of branches means a branch under its key without the
    blanks around it. -/
inductive BranchMeans (inner : Json → Pattern → Prop) : String × Json → String × Pattern → Prop
  | member {key : String} {v : Json} {p : Pattern} (h : inner v p) :
      BranchMeans inner (key, v) (Text.trim key, p)

/-- The body of a tag means its attributes and its children. -/
inductive BodyMeans (inner : Json → Pattern → Prop) : Json → String × Pattern → Prop
  | array {body : List Json} {attributes : String} {children : Pattern}
      (hattributes : OptionalMeans "" AttributesMean body[0]? attributes)
      (hchildren : OptionalMeans [] inner body[1]? children) :
      BodyMeans inner (.array body) (attributes, children)

/-- What an array means as an element of a type, whose id and word it starts with. Of
    two branches whose keys agree without the blanks around them the later one stays. -/
inductive TypedMeans (inner : Json → Pattern → Prop) :
    ArgumentType → String → List Json → Element → Prop
  | moment {half : TemporalKind} {id : String} {entries : List Json} :
      TypedMeans inner (.moment half) id entries
        (.moment id half (.ofKeyword (entries[2]?.bind Json.text?)))
  | number {id : String} {entries : List Json} :
      TypedMeans inner .number id entries
        (.number id 0 (.ofKeyword (entries[2]?.bind Json.text?)))
  | styled {style : NumberStyle} {id : String} {entries : List Json} :
      TypedMeans inner (.styled style) id entries (.number id 0 style)
  | plural {rules : PluralKind} {id : String} {entries : List Json} {offset : Int64}
      {members : List (String × Json)} {branches : List (String × Pattern)}
      (hoffset : OptionalMeans 0 WordMeans entries[2]? offset)
      (hobject : entries[3]? = some (.object members))
      (hbranches : List.Forall₂ (BranchMeans inner) members branches) :
      TypedMeans inner (.plural rules) id entries
        (.plural id rules offset (Table.ofList branches))
  | select {id : String} {entries : List Json} {members : List (String × Json)}
      {branches : List (String × Pattern)} (hobject : entries[2]? = some (.object members))
      (hbranches : List.Forall₂ (BranchMeans inner) members branches) :
      TypedMeans inner .select id entries (.select id (Table.ofList branches))
  | tag {id : String} {entries : List Json} {attributes : String} {children : Pattern}
      (hbody : OptionalMeans ("", []) (BodyMeans inner) entries[2]? (attributes, children)) :
      TypedMeans inner .tag id entries (.tag id attributes children)
  | emptyTag {id : String} {entries : List Json} {attributes : String}
      (hbody : OptionalMeans "" EmptyBodyMeans entries[2]? attributes) :
      TypedMeans inner .emptyTag id entries (.emptyTag id attributes)

/-- **What an argument element means**, by the id that it starts with and the word
    behind the id. -/
inductive ArgumentMeans (inner : Json → Pattern → Prop) : List Json → Element → Prop
  | pound {rest : List Json} : ArgumentMeans inner (.text "#" :: rest) .pound
  | argument {entries : List Json} {id : String} (hid : entries[0]? = some (.text id))
      (hpound : id ≠ "#") (htype : entries[1]? = none ∨ entries[1]? = some .null) :
      ArgumentMeans inner entries (.argument id)
  | typed {entries : List Json} {id word : String} {type : ArgumentType} {e : Element}
      (hid : entries[0]? = some (.text id)) (hpound : id ≠ "#")
      (htype : entries[1]? = some (.text word)) (hword : (word, type) ∈ words)
      (h : TypedMeans inner type id entries e) : ArgumentMeans inner entries e

/-- A string means literal text, an array an argument element. -/
inductive ItemMeans (inner : Json → Pattern → Prop) : Json → Element → Prop
  | text {s : String} : ItemMeans inner (.text s) (.literal s)
  | array {entries : List Json} {e : Element} (h : ArgumentMeans inner entries e) :
      ItemMeans inner (.array entries) e

/-- **The pattern that a JSON value means**: item by item an element. -/
inductive Denotes : Json → Pattern → Prop
  | array {items : List Json} {p : Pattern} (h : List.Forall₂ (ItemMeans Denotes) items p) :
      Denotes (.array items) p

/-! ### Having a form is having a meaning -/

/-- An entry that may be left out has a meaning exactly when it has a form, if that
    is so of the values that can stand there. -/
theorem exists_optionalMeans_iff {α : Type} {fallback : α} {meaning : Json → α → Prop}
    {form : Json → Prop} {entry : Option Json} (h : ∀ v, (∃ a, meaning v a) ↔ form v) :
    (∃ a, OptionalMeans fallback meaning entry a) ↔ Optional form entry := by
  constructor
  · rintro ⟨a, ha⟩
    cases ha with
    | missing => exact .missing
    | null => exact .null
    | given ha => exact .given ((h _).mp ⟨a, ha⟩)
  · intro hentry
    cases hentry with
    | missing => exact ⟨fallback, .missing⟩
    | null => exact ⟨fallback, .null⟩
    | given hv =>
      obtain ⟨a, ha⟩ := (h _).mpr hv
      exact ⟨a, .given ha⟩

theorem exists_wordMeans_iff (v : Json) : (∃ n, WordMeans v n) ↔ IsWord v := by
  constructor
  · rintro ⟨n, hv⟩
    exact ⟨n.toInt, hv, n.le_toInt, n.toInt_lt⟩
  · rintro ⟨n, hv, hle, hlt⟩
    refine ⟨Int64.ofInt n, ?_⟩
    rw [WordMeans, Int64.toInt_ofInt_of_le hle hlt, hv]

theorem exists_attributesMean_iff (v : Json) : (∃ a, AttributesMean v a) ↔ IsText v := by
  constructor
  · rintro ⟨a, s, hv, -⟩
    exact ⟨s, hv⟩
  · rintro ⟨s, hv⟩
    exact ⟨Text.trim s, s, hv, rfl⟩

theorem exists_emptyBodyMeans_iff (v : Json) : (∃ a, EmptyBodyMeans v a) ↔ IsEmptyBody v := by
  constructor
  · rintro ⟨a, body, hv, ha⟩
    exact ⟨body, hv, (exists_optionalMeans_iff exists_attributesMean_iff).mp ⟨a, ha⟩⟩
  · rintro ⟨body, hv, h⟩
    obtain ⟨a, ha⟩ := (exists_optionalMeans_iff exists_attributesMean_iff).mpr h
    exact ⟨a, body, hv, ha⟩

section
variable {inner : Json → Pattern → Prop} {form : Json → Prop}

theorem exists_bodyMeans_iff (hinner : ∀ v, (∃ p, inner v p) ↔ form v) (v : Json) :
    (∃ a, BodyMeans inner v a) ↔ IsBody form v := by
  constructor
  · rintro ⟨a, h⟩
    cases h with
    | array hattributes hchildren =>
      exact .array ((exists_optionalMeans_iff exists_attributesMean_iff).mp ⟨_, hattributes⟩)
        ((exists_optionalMeans_iff hinner).mp ⟨_, hchildren⟩)
  · intro h
    cases h with
    | array hattributes hchildren =>
      obtain ⟨a, ha⟩ := (exists_optionalMeans_iff exists_attributesMean_iff).mpr hattributes
      obtain ⟨p, hp⟩ := (exists_optionalMeans_iff hinner).mpr hchildren
      exact ⟨(a, p), .array ha hp⟩

/-- The members of an object have branches exactly when all its values have patterns. -/
theorem exists_branchesMean_iff (hinner : ∀ v, (∃ p, inner v p) ↔ form v)
    {members : List (String × Json)} :
    (∃ branches, List.Forall₂ (BranchMeans inner) members branches) ↔
      ∀ m ∈ members, form m.2 := by
  rw [exists_forall₂_iff]
  refine forall₂_congr fun m _ => ?_
  rw [← hinner]
  constructor
  · rintro ⟨b, h⟩
    cases h with
    | member h => exact ⟨_, h⟩
  · rintro ⟨p, h⟩
    exact ⟨(Text.trim m.1, p), .member h⟩

/-- An array that means an element of a type has the form of an argument element. -/
theorem isArgument_of_typedMeans (hinner : ∀ v, (∃ p, inner v p) ↔ form v)
    {entries : List Json} {id word : String} {type : ArgumentType} {e : Element}
    (hid : entries[0]? = some (.text id)) (htype : entries[1]? = some (.text word))
    (hword : (word, type) ∈ words) (h : TypedMeans inner type id entries e) :
    IsArgument form entries := by
  -- the words of a type are looked up in the list of words
  cases h with
  | moment =>
    refine .leaf hid htype ?_
    simp [words] at hword
    rcases hword with h | h <;> simp [h]
  | number =>
    refine .leaf hid htype ?_
    simp [words] at hword
    simp [hword]
  | styled =>
    refine .leaf hid htype ?_
    simp [words] at hword
    rcases hword with h | h | h <;> simp [h]
  | plural hoffset hobject hbranches =>
    have hplural : word ∈ ["plural", "selectordinal"] := by
      simp [words] at hword
      rcases hword with h | h <;> simp [h]
    exact .plural hid htype hplural
      ((exists_optionalMeans_iff exists_wordMeans_iff).mp ⟨_, hoffset⟩) hobject
      ((exists_branchesMean_iff hinner).mp ⟨_, hbranches⟩)
  | select hobject hbranches =>
    have hselect : word = "select" := by simpa [words] using hword
    exact .select hid (hselect ▸ htype) hobject
      ((exists_branchesMean_iff hinner).mp ⟨_, hbranches⟩)
  | tag hbody =>
    have htag : word = "tag" := by simpa [words] using hword
    exact .tag hid (htag ▸ htype)
      ((exists_optionalMeans_iff (exists_bodyMeans_iff hinner)).mp ⟨_, hbody⟩)
  | emptyTag hbody =>
    have htag : word = "self-closing-tag" := by simpa [words] using hword
    exact .emptyTag hid (htag ▸ htype)
      ((exists_optionalMeans_iff exists_emptyBodyMeans_iff).mp ⟨_, hbody⟩)

/-- An array in the form of an argument element means one, if everything inside it
    that has the form of a pattern means one. -/
theorem exists_argumentMeans_of_isArgument (hinner : ∀ v, (∃ p, inner v p) ↔ form v)
    {entries : List Json} (h : IsArgument form entries) :
    ∃ e, ArgumentMeans inner entries e := by
  by_cases hpound : entries[0]? = some (.text "#")
  · -- an element that starts with `#` is one, whatever else it looks like
    obtain ⟨rest, rfl⟩ := List.head?_eq_some_iff.mp (List.head?_eq_getElem? ▸ hpound)
    exact ⟨.pound, .pound⟩
  · have hne : ∀ id, entries[0]? = some (.text id) → id ≠ "#" :=
      fun id hid h => hpound (h ▸ hid)
    -- the form tells the type, and its meaning is put together from the meanings of the
    -- entries
    cases h with
    | pound => exact absurd rfl hpound
    | argument hid htype => exact ⟨_, .argument hid (hne _ hid) htype⟩
    | leaf hid htype hword =>
      simp only [List.mem_cons, List.not_mem_nil, or_false] at hword
      rcases hword with rfl | rfl | rfl | rfl | rfl | rfl
      · have hword : ("date", .moment .date) ∈ words := by simp [words]
        exact ⟨_, .typed hid (hne _ hid) htype hword .moment⟩
      · have hword : ("time", .moment .time) ∈ words := by simp [words]
        exact ⟨_, .typed hid (hne _ hid) htype hword .moment⟩
      · exact ⟨_, .typed hid (hne _ hid) htype (by simp [words]) .number⟩
      · have hword : ("spellout", .styled .spellout) ∈ words := by simp [words]
        exact ⟨_, .typed hid (hne _ hid) htype hword .styled⟩
      · have hword : ("ordinal", .styled .ordinal) ∈ words := by simp [words]
        exact ⟨_, .typed hid (hne _ hid) htype hword .styled⟩
      · have hword : ("duration", .styled .duration) ∈ words := by simp [words]
        exact ⟨_, .typed hid (hne _ hid) htype hword .styled⟩
    | plural hid htype hword hoffset hobject hmembers =>
      obtain ⟨offset, hoffset⟩ : ∃ n, OptionalMeans 0 WordMeans entries[2]? n :=
        (exists_optionalMeans_iff exists_wordMeans_iff).mpr hoffset
      obtain ⟨branches, hbranches⟩ := (exists_branchesMean_iff hinner).mpr hmembers
      simp only [List.mem_cons, List.not_mem_nil, or_false] at hword
      rcases hword with rfl | rfl
      · have hword : ("plural", .plural .cardinal) ∈ words := by simp [words]
        exact ⟨_, .typed hid (hne _ hid) htype hword (.plural hoffset hobject hbranches)⟩
      · have hword : ("selectordinal", .plural .ordinal) ∈ words := by simp [words]
        exact ⟨_, .typed hid (hne _ hid) htype hword (.plural hoffset hobject hbranches)⟩
    | select hid htype hobject hmembers =>
      obtain ⟨branches, hbranches⟩ := (exists_branchesMean_iff hinner).mpr hmembers
      exact ⟨_, .typed hid (hne _ hid) htype (by simp [words]) (.select hobject hbranches)⟩
    | tag hid htype hbody =>
      obtain ⟨⟨a, p⟩, hbody⟩ :=
        (exists_optionalMeans_iff (exists_bodyMeans_iff hinner)).mpr hbody
      exact ⟨_, .typed hid (hne _ hid) htype (by simp [words]) (.tag hbody)⟩
    | emptyTag hid htype hbody =>
      obtain ⟨a, hbody⟩ := (exists_optionalMeans_iff exists_emptyBodyMeans_iff).mpr hbody
      exact ⟨_, .typed hid (hne _ hid) htype (by simp [words]) (.emptyTag hbody)⟩

/-- An item has a meaning exactly when it has the form of one, if that is so of the
    values inside it. -/
theorem exists_itemMeans_iff (hinner : ∀ v, (∃ p, inner v p) ↔ form v) {item : Json} :
    (∃ e, ItemMeans inner item e) ↔ IsItem form item := by
  constructor
  · rintro ⟨e, h⟩
    cases h with
    | text => exact .text
    | array h =>
      cases h with
      | pound => exact .array .pound
      | argument hid _ htype => exact .array (.argument hid htype)
      | typed hid _ htype hword h =>
        exact .array (isArgument_of_typedMeans hinner hid htype hword h)
  · intro h
    cases h with
    | text => exact ⟨_, .text⟩
    | array h =>
      obtain ⟨e, he⟩ := exists_argumentMeans_of_isArgument hinner h
      exact ⟨e, .array he⟩

end

/-! ### Tying the knot -/

theorem sizeOf_lt_of_entry {entries : List Json} {i : Nat} {v : Json}
    (h : entries[i]? = some v) : sizeOf v < sizeOf entries :=
  List.sizeOf_lt_of_mem (List.mem_of_getElem? h)

section
variable {inner inner' : Json → Pattern → Prop}

theorem OptionalMeans.mono {α : Type} {fallback : α} {meaning meaning' : Json → α → Prop}
    {entry : Option Json} {a : α} (h : OptionalMeans fallback meaning entry a)
    (hmono : ∀ v, entry = some v → meaning v a → meaning' v a) :
    OptionalMeans fallback meaning' entry a := by
  cases h with
  | missing => exact .missing
  | null => exact .null
  | given h => exact .given (hmono _ rfl h)

theorem BodyMeans.mono {v : Json} {a : String × Pattern} (h : BodyMeans inner v a)
    (hmono : ∀ w, sizeOf w < sizeOf v → ∀ p, inner w p → inner' w p) : BodyMeans inner' v a := by
  cases h with
  | array hattributes hchildren =>
    refine .array hattributes (hchildren.mono fun w hw => hmono w ?_ _)
    have hless := sizeOf_lt_of_entry hw
    rw [Json.array.sizeOf_spec]
    omega

theorem branchesMean_mono {members : List (String × Json)} {branches : List (String × Pattern)}
    (h : List.Forall₂ (BranchMeans inner) members branches)
    (hmono : ∀ w, sizeOf w < sizeOf members → ∀ p, inner w p → inner' w p) :
    List.Forall₂ (BranchMeans inner') members branches := by
  -- a member is smaller than the list of members that it is in
  refine forall₂_mono_of_mem h fun m hm b hb => ?_
  cases hb with
  | member hp =>
    refine .member (hmono _ ?_ _ hp)
    have hless := List.sizeOf_lt_of_mem hm
    rw [Prod.mk.sizeOf_spec] at hless
    omega

theorem TypedMeans.mono {id : String} {type : ArgumentType} {entries : List Json} {e : Element}
    (h : TypedMeans inner type id entries e)
    (hmono : ∀ w, sizeOf w < sizeOf entries → ∀ p, inner w p → inner' w p) :
    TypedMeans inner' type id entries e := by
  -- branches are inside an object, which is smaller than the array
  have hobject : ∀ {i : Nat} {members : List (String × Json)},
      entries[i]? = some (.object members) → ∀ w, sizeOf w < sizeOf members →
        ∀ p, inner w p → inner' w p := by
    intro i members hi w hw
    have hless := sizeOf_lt_of_entry hi
    rw [Json.object.sizeOf_spec] at hless
    exact hmono w (by omega)
  cases h with
  | moment => exact .moment
  | number => exact .number
  | styled => exact .styled
  | plural hoffset hmembers hbranches =>
    exact .plural hoffset hmembers (branchesMean_mono hbranches (hobject hmembers))
  | select hmembers hbranches =>
    exact .select hmembers (branchesMean_mono hbranches (hobject hmembers))
  | tag hbody =>
    refine .tag (hbody.mono fun v hv h => h.mono fun w hw => hmono w ?_)
    exact Nat.lt_trans hw (sizeOf_lt_of_entry hv)
  | emptyTag hbody => exact .emptyTag hbody

/-- The meaning of an argument element depends on smaller values only. -/
theorem ArgumentMeans.mono {entries : List Json} {e : Element}
    (h : ArgumentMeans inner entries e)
    (hmono : ∀ w, sizeOf w < sizeOf entries → ∀ p, inner w p → inner' w p) :
    ArgumentMeans inner' entries e := by
  cases h with
  | pound => exact .pound
  | argument hid hpound htype => exact .argument hid hpound htype
  | typed hid hpound htype hword h => exact .typed hid hpound htype hword (h.mono hmono)

/-- The meanings of the items of an array depend on smaller values only. -/
theorem itemsMean_mono {items : List Json} {p : Pattern}
    (h : List.Forall₂ (ItemMeans inner) items p)
    (hmono : ∀ w, sizeOf w < sizeOf items → ∀ q, inner w q → inner' w q) :
    List.Forall₂ (ItemMeans inner') items p := by
  refine forall₂_mono_of_mem h fun item hitem e he => ?_
  cases he with
  | text => exact .text
  | array he =>
    refine .array (he.mono fun w hw => hmono w ?_)
    have hless := List.sizeOf_lt_of_mem hitem
    rw [Json.array.sizeOf_spec] at hless
    omega

end

/-- Induction along the meaning of a value: what follows for an array from holding
    of the values inside it holds of every value with its pattern. -/
theorem Denotes.induct {motive : Json → Pattern → Prop}
    (array : ∀ items p, List.Forall₂ (ItemMeans motive) items p → motive (.array items) p)
    {v : Json} {p : Pattern} (h : Denotes v p) : motive v p := by
  cases h with
  -- the motive stands in the place of the meaning of everything smaller
  | @array items _ h =>
    refine array items p (itemsMean_mono h fun w hw q hq => ?_)
    have hless : sizeOf w < sizeOf (Json.array items) := by
      rw [Json.array.sizeOf_spec]
      omega
    exact Denotes.induct array hq
termination_by sizeOf v

/-- **The meaning is the only solution of its rules.** -/
theorem iff_denotes_of_rules {R : Json → Pattern → Prop}
    (hR : ∀ v p, R v p ↔ ∃ items, v = .array items ∧ List.Forall₂ (ItemMeans R) items p)
    {v : Json} {p : Pattern} : R v p ↔ Denotes v p := by
  constructor
  · intro h
    -- strong induction on the size, as the rules go from a value to any value inside it
    induction hn : sizeOf v using Nat.strongRecOn generalizing v p with
    | ind n ih =>
      obtain ⟨items, rfl, hitems⟩ := (hR v p).mp h
      refine .array (itemsMean_mono hitems fun w hw q hq => ih (sizeOf w) ?_ hq rfl)
      rw [← hn, Json.array.sizeOf_spec]
      omega
  · intro h
    exact h.induct fun items p hitems => (hR _ _).mpr ⟨items, rfl, hitems⟩

/-- **A value has a meaning exactly when it is a pattern.** -/
theorem exists_denotes_iff {v : Json} : (∃ p, Denotes v p) ↔ IsPattern v := by
  constructor
  · -- both directions by size: from the meaning along its rules, from the form below it
    rintro ⟨p, h⟩
    refine h.induct (motive := fun v _ => IsPattern v) fun items p hitems => ?_
    -- the pattern inside plays no part, so any will do
    have hinner : ∀ v, (∃ _ : Pattern, IsPattern v) ↔ IsPattern v := fun v => exists_const Pattern
    exact .array fun item hitem =>
      (exists_itemMeans_iff hinner).mp (exists_forall₂_iff.mp ⟨p, hitems⟩ item hitem)
  · intro h
    induction hn : sizeOf v using Nat.strongRecOn generalizing v with
    | ind n ih =>
      cases h with
      | @array items h =>
        -- below the array there is a meaning; of larger values nothing is asked
        have hinner : ∀ w, (∃ q, IsPattern w ∧ (sizeOf w < n → Denotes w q)) ↔ IsPattern w := by
          intro w
          refine ⟨fun ⟨_, hw, _⟩ => hw, fun hw => ?_⟩
          by_cases hless : sizeOf w < n
          · obtain ⟨q, hq⟩ := ih (sizeOf w) hless hw rfl
            exact ⟨q, hw, fun _ => hq⟩
          · exact ⟨[], hw, fun h => absurd h hless⟩
        obtain ⟨p, hp⟩ := exists_forall₂_iff.mpr fun item hitem =>
          (exists_itemMeans_iff hinner).mpr (h item hitem)
        refine ⟨p, .array (itemsMean_mono hp fun w hw q hq => hq.2 ?_)⟩
        rw [← hn, Json.array.sizeOf_spec]
        omega

end Phrasebook.Grammar
