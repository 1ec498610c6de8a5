import Mathlib.Algebra.Order.BigOperators.Group.List
import Mathlib.Algebra.Order.Ring.Nat
import Mathlib.Data.List.Forall2
import Phrasebook.Proofs.Pattern.Acceptance
import Phrasebook.Proofs.Pattern.Occurrence

/-! # Elements kept in decoding

    A JSON value has items where messages stand: in the array itself, and in the branches
    and the children of its items. Decoding makes an element of each of them. It keeps all
    these elements as long as the keys of every object of branches differ without the
    blanks around them. Of branches whose keys agree then only the last is kept, and the
    elements of the others are lost.
-/

namespace Phrasebook

/-! ### Tables and the entries they are built from -/

namespace Table

variable {α : Type}

theorem insert_subperm (key : String) (entry : α) (t : Table α) :
    (insert key entry t).Subperm ((key, entry) :: t) := by
  -- induction on the table: the new entry goes in front, replaces one, or goes further on
  induction t with
  | nil => exact List.Subperm.refl _
  | cons head t ih =>
    obtain ⟨k, e⟩ := head
    rw [insert]
    split
    · exact List.Subperm.refl _
    · split
      -- the entry that was there goes
      · exact ((List.sublist_cons_self _ t).cons_cons _).subperm
      · exact ((List.subperm_cons (k, e)).mpr ih).trans (List.Perm.swap _ _ t).subperm

/-- Putting an entry under a new key keeps all others. -/
theorem insert_perm {key : String} (entry : α) {t : Table α} (h : key ∉ t.map Prod.fst) :
    (insert key entry t).Perm ((key, entry) :: t) := by
  induction t with
  | nil => exact List.Perm.refl _
  | cons head t ih =>
    obtain ⟨k, e⟩ := head
    obtain ⟨hne, hrest⟩ := not_or.mp (mt List.mem_cons.mpr h)
    -- without an entry under the key the one case that drops an entry does not arise
    rw [insert]
    split
    · exact List.Perm.refl _
    · exact ((ih hrest).cons (k, e)).trans (List.Perm.swap _ _ t)

/-- A table keeps some of the entries that it is built from. -/
theorem ofList_subperm (entries : List (String × α)) : (ofList entries).Subperm entries := by
  suffices ∀ t : Table α,
      (entries.foldl (fun t e => insert e.1 e.2 t) t).Subperm (entries ++ t) by
    simpa [ofList] using this []
  induction entries with
  | nil => exact fun t => List.Subperm.refl t
  | cons e es ih =>
    intro t
    have hinsert : (es ++ insert e.1 e.2 t).Subperm (es ++ e :: t) :=
      (List.subperm_append_left es).mpr (insert_subperm e.1 e.2 t)
    exact ((ih _).trans hinsert).trans List.perm_middle.subperm

/-- A table keeps all the entries that it is built from, if their keys differ. -/
theorem ofList_perm {entries : List (String × α)} (h : (entries.map Prod.fst).Nodup) :
    (ofList entries).Perm entries := by
  suffices ∀ t : Table α, ((entries ++ t).map Prod.fst).Nodup →
      (entries.foldl (fun t e => insert e.1 e.2 t) t).Perm (entries ++ t) by
    simpa [ofList] using this [] (by simpa using h)
  clear h
  induction entries with
  | nil => exact fun t _ => List.Perm.refl t
  | cons e es ih =>
    intro t h
    have hnew : e.1 ∉ t.map Prod.fst := fun hmem =>
      (List.nodup_cons.mp h).1 (by simp [hmem])
    have hinsert : (es ++ insert e.1 e.2 t).Perm (e :: (es ++ t)) :=
      ((insert_perm e.2 hnew).append_left es).trans List.perm_middle
    exact (ih _ ((hinsert.map Prod.fst).nodup_iff.mpr h)).trans hinsert

theorem nodup_keys {t : Table α} (h : Ascending t) : (t.map Prod.fst).Nodup :=
  List.pairwise_map.mpr (h.imp fun hlt => String.ne_of_lt hlt)

/-- A table keeps all the entries that it is built from just if their keys differ. -/
theorem ofList_perm_iff {entries : List (String × α)} :
    (ofList entries).Perm entries ↔ (entries.map Prod.fst).Nodup := by
  refine ⟨fun h => ?_, ofList_perm⟩
  exact (h.map Prod.fst).nodup_iff.mp (nodup_keys (ascending_ofList entries))

end Table

/-! ### Items where messages stand -/

namespace Json

def nth? (i : Nat) : Json → Option Json
  | array entries => entries[i]?
  | _ => none

def membersOf : Option Json → List (String × Json)
  | some (object members) => members
  | _ => []

def word? (item : Json) : Option String :=
  match item.nth? 0, item.nth? 1 with
  | some (text id), some (text word) => if id = "#" then none else some word
  | _, _ => none

theorem word?_pound (rest : List Json) : (array (text "#" :: rest)).word? = none := by
  unfold word?
  split
  · next id word hid _ =>
    obtain rfl : "#" = id := text.inj (Option.some.inj hid)
    rfl
  · rfl

/-- The members of the object of branches, for a choice; none for other items. -/
def branchMembers (item : Json) : List (String × Json) :=
  if item.word? = some "plural" ∨ item.word? = some "selectordinal" then membersOf (item.nth? 3)
  else if item.word? = some "select" then membersOf (item.nth? 2)
  else []

/-- The value in the place of children, for a tag; none for other items. -/
def childrenValue? (item : Json) : Option Json :=
  if item.word? = some "tag" then (item.nth? 2).bind (nth? 1) else none

/-- The values inside an item that stand for messages. -/
def inside (item : Json) : List Json :=
  item.branchMembers.map Prod.snd ++ item.childrenValue?.toList

theorem sizeOf_lt_of_nth? {item v : Json} {i : Nat} (h : item.nth? i = some v) :
    sizeOf v < sizeOf item := by
  cases item with
  | array entries =>
    have hless := List.sizeOf_lt_of_mem (List.mem_of_getElem? h)
    rw [array.sizeOf_spec]
    omega
  | _ => cases h

theorem sizeOf_lt_of_mem_membersOf {entry : Option Json} {item : Json} {m : String × Json}
    (hentry : ∀ v, entry = some v → sizeOf v < sizeOf item) (h : m ∈ membersOf entry) :
    sizeOf m.2 < sizeOf item := by
  unfold membersOf at h
  split at h
  · next members =>
    have hobject := hentry _ rfl
    have hless := List.sizeOf_lt_of_mem h
    rw [object.sizeOf_spec] at hobject
    rw [Prod.mk.sizeOf_spec] at hless
    omega
  · cases h

theorem sizeOf_lt_of_mem_inside {item v : Json} (h : v ∈ item.inside) :
    sizeOf v < sizeOf item := by
  -- a value inside is in the object of branches or in the array that is the body of a tag
  rcases List.mem_append.mp h with hbranch | hchildren
  · obtain ⟨m, hm, rfl⟩ := List.mem_map.mp hbranch
    unfold branchMembers at hm
    split at hm
    · exact sizeOf_lt_of_mem_membersOf (fun _ => sizeOf_lt_of_nth?) hm
    · split at hm
      · exact sizeOf_lt_of_mem_membersOf (fun _ => sizeOf_lt_of_nth?) hm
      · cases hm
  · unfold childrenValue? at hchildren
    split at hchildren
    · obtain ⟨body, hbody, hv⟩ := Option.bind_eq_some_iff.mp (Option.mem_toList.mp hchildren)
      exact Nat.lt_trans (sizeOf_lt_of_nth? hv) (sizeOf_lt_of_nth? hbody)
    · cases hchildren

/-- **The items where messages stand**: the items of a message, and those of the messages
    inside them, at any depth. -/
def messageItems : Json → List Json
  | array items => items ++ items.attach.flatMap fun item =>
      item.1.inside.attach.flatMap fun v => messageItems v.1
  | _ => []
termination_by v => sizeOf v
decreasing_by
  have hinside := sizeOf_lt_of_mem_inside v.2
  have hless := List.sizeOf_lt_of_mem item.2
  rw [array.sizeOf_spec]
  omega

theorem messageItems_array (items : List Json) :
    (array items).messageItems =
      items ++ items.flatMap fun item => item.inside.flatMap messageItems := by
  rw [messageItems]
  simp

/-- The keys of the branches of an item differ, also without the blanks around them. -/
def KeysDiffer (item : Json) : Prop :=
  (item.branchMembers.map fun m => Text.trim m.1).Nodup

/-- The keys of branches differ all over a message. -/
def KeysApart (v : Json) : Prop :=
  ∀ item ∈ v.messageItems, item.KeysDiffer

theorem keysApart_array_iff {items : List Json} :
    (array items).KeysApart ↔
      ∀ item ∈ items, item.KeysDiffer ∧ ∀ v ∈ item.inside, v.KeysApart := by
  unfold KeysApart
  rw [messageItems_array, List.forall_mem_append]
  constructor
  · rintro ⟨hitems, hinside⟩ item hitem
    refine ⟨hitems item hitem, fun v hv inner hinner => hinside inner ?_⟩
    exact List.mem_flatMap.mpr ⟨item, hitem, List.mem_flatMap.mpr ⟨v, hv, hinner⟩⟩
  · intro h
    refine ⟨fun item hitem => (h item hitem).1, fun inner hinner => ?_⟩
    obtain ⟨item, hitem, hinner⟩ := List.mem_flatMap.mp hinner
    obtain ⟨v, hv, hinner⟩ := List.mem_flatMap.mp hinner
    exact (h item hitem).2 v hv inner hinner

end Json

/-! ### Sizes of patterns -/

theorem Pattern.size_eq_sum (p : Pattern) : Pattern.size p = (p.map Element.size).sum := by
  induction p with
  | nil => rfl
  | cons e es ih => rw [Pattern.size, ih, List.map_cons, List.sum_cons]

theorem Branches.size_eq_sum (bs : Branches) :
    Branches.size bs = (bs.map fun b => Pattern.size b.2).sum := by
  induction bs with
  | nil => rfl
  | cons b bs ih => rw [Branches.size, ih, List.map_cons, List.sum_cons]

theorem Element.size_eq (e : Element) :
    e.size = 1 + (Branches.size e.branches + Pattern.size e.children) := by
  cases e with
  | plural id kind offset bs =>
    show Branches.size bs + 1 = 1 + (Branches.size bs + 0)
    omega
  | select id bs =>
    show Branches.size bs + 1 = 1 + (Branches.size bs + 0)
    omega
  | tag id attributes es =>
    show Pattern.size es + 1 = 1 + (0 + Pattern.size es)
    omega
  | _ => rfl

namespace Grammar

/-! ### The parts of an item -/

/-- The branches of an element come from the members of an item, and its children from the
    value in their place. -/
structure PartsMean (inner : Json → Pattern → Prop) (item : Json) (e : Element) : Prop where
  branches : ∃ branches, List.Forall₂ (BranchMeans inner) item.branchMembers branches ∧
    e.branches = Table.ofList branches
  children : OptionalMeans [] inner item.childrenValue? e.children

section
variable {inner : Json → Pattern → Prop}

/-- An item without a word that asks for branches or children has nothing inside it. -/
theorem parts_of_leaf {item : Json} {e : Element}
    (hword : ∀ word, item.word? = some word →
      word ∉ ["plural", "selectordinal", "select", "tag"])
    (hbranches : e.branches = []) (hchildren : e.children = []) :
    PartsMean inner item e := by
  have hnone : ∀ word, word ∈ ["plural", "selectordinal", "select", "tag"] →
      item.word? ≠ some word := fun word hmem heq => hword word heq hmem
  -- neither reading of the item finds anything without one of these words
  have hmembers : item.branchMembers = [] := by
    simp [Json.branchMembers, hnone]
  have hvalue : item.childrenValue? = none := by
    simp [Json.childrenValue?, hnone]
  refine ⟨⟨[], ?_, hbranches⟩, ?_⟩
  · rw [hmembers]
    exact .nil
  · rw [hvalue, hchildren]
    exact .missing

/-- An array that means an element of a type has the parts of the element under the numbers
    that belong to the type. -/
theorem parts_of_typedMeans {entries : List Json} {id word : String} {type : ArgumentType}
    {e : Element} (hfound : (Json.array entries).word? = some word)
    (hword : (word, type) ∈ words) (h : TypedMeans inner type id entries e) :
    PartsMean inner (.array entries) e := by
  have hleaf : word ∉ ["plural", "selectordinal", "select", "tag"] →
      ∀ word', (Json.array entries).word? = some word' →
        word' ∉ ["plural", "selectordinal", "select", "tag"] := by
    intro hnot word' hword'
    rw [hfound] at hword'
    exact Option.some.inj hword' ▸ hnot
  -- one case per type; the word tells which entry the branches or the children are in
  cases h with
  | moment =>
    refine parts_of_leaf (hleaf ?_) rfl rfl
    simp [words] at hword
    rcases hword with ⟨rfl, -⟩ | ⟨rfl, -⟩ <;> decide
  | number =>
    refine parts_of_leaf (hleaf ?_) rfl rfl
    simp [words] at hword
    subst hword
    decide
  | styled =>
    refine parts_of_leaf (hleaf ?_) rfl rfl
    simp [words] at hword
    rcases hword with ⟨rfl, -⟩ | ⟨rfl, -⟩ | ⟨rfl, -⟩ <;> decide
  | @plural _ _ _ _ members branches hoffset hobject hbranches =>
    have hplural : word = "plural" ∨ word = "selectordinal" := by
      simp [words] at hword
      rcases hword with ⟨rfl, -⟩ | ⟨rfl, -⟩ <;> simp
    have hmembers : (Json.array entries).branchMembers = members := by
      rw [Json.branchMembers, hfound, if_pos (by simpa using hplural)]
      simp [Json.nth?, hobject, Json.membersOf]
    have hvalue : (Json.array entries).childrenValue? = none := by
      rw [Json.childrenValue?, hfound, if_neg]
      rcases hplural with rfl | rfl <;> simp
    refine ⟨⟨branches, ?_, rfl⟩, ?_⟩
    · rw [hmembers]
      exact hbranches
    · rw [hvalue]
      exact .missing
  | @select _ _ members branches hobject hbranches =>
    have hselect : word = "select" := by simpa [words] using hword
    subst hselect
    have hmembers : (Json.array entries).branchMembers = members := by
      simp [Json.branchMembers, hfound, Json.nth?, hobject, Json.membersOf]
    have hvalue : (Json.array entries).childrenValue? = none := by
      simp [Json.childrenValue?, hfound]
    refine ⟨⟨branches, ?_, rfl⟩, ?_⟩
    · rw [hmembers]
      exact hbranches
    · rw [hvalue]
      exact .missing
  | @tag _ _ attributes children hbody =>
    have htag : word = "tag" := by simpa [words] using hword
    subst htag
    have hmembers : (Json.array entries).branchMembers = [] := by
      simp [Json.branchMembers, hfound]
    have hvalue : (Json.array entries).childrenValue? =
        entries[2]?.bind (Json.nth? 1) := by
      rw [Json.childrenValue?, if_pos hfound]
      rfl
    refine ⟨⟨[], ?_, rfl⟩, ?_⟩
    · rw [hmembers]
      exact .nil
    rw [hvalue]
    generalize entries[2]? = entry at hbody
    cases hbody with
    | missing => exact .missing
    | null => exact .missing
    | given hbody =>
      cases hbody with
      | array _ hchildren => exact hchildren
  | emptyTag =>
    refine parts_of_leaf (hleaf ?_) rfl rfl
    simp [words] at hword
    subst hword
    decide

/-- **The parts of an element** are those of its item. -/
theorem parts_of_itemMeans {item : Json} {e : Element} (h : ItemMeans inner item e) :
    PartsMean inner item e := by
  -- only an element with a type has a word
  cases h with
  | text => exact parts_of_leaf (fun word hword => by cases hword) rfl rfl
  | @array entries e h =>
    cases h with
    | pound =>
      refine parts_of_leaf (fun word hword => ?_) rfl rfl
      rw [Json.word?_pound] at hword
      cases hword
    | argument hid hpound htype =>
      refine parts_of_leaf (fun word hword => ?_) rfl rfl
      rcases htype with htype | htype
      · simp [Json.word?, Json.nth?, hid, htype] at hword
      · simp [Json.word?, Json.nth?, hid, htype] at hword
    | typed hid hpound htype hword h =>
      refine parts_of_typedMeans ?_ hword h
      simp [Json.word?, Json.nth?, hid, htype, hpound]

/-- A value inside an item is null or has a meaning. -/
theorem exists_of_mem_inside {item v : Json} {e : Element} (h : PartsMean inner item e)
    (hv : v ∈ item.inside) : v = .null ∨ ∃ p, inner v p := by
  rcases List.mem_append.mp hv with hbranch | hchildren
  · obtain ⟨m, hm, rfl⟩ := List.mem_map.mp hbranch
    obtain ⟨branches, hbranches, -⟩ := h.branches
    obtain ⟨b, -, hb⟩ := exists_of_mem_left hbranches m hm
    cases hb with
    | member hp => exact .inr ⟨_, hp⟩
  · have hmeaning := h.children
    rw [Option.mem_toList.mp hchildren] at hmeaning
    generalize e.children = children at hmeaning
    cases hmeaning with
    | null => exact .inl rfl
    | given hp => exact .inr ⟨_, hp⟩

end

/-! ### Counting -/

/-- At most so many are kept, and all of them under a condition. -/
def Keeps (condition : Prop) (kept all : Nat) : Prop :=
  kept ≤ all ∧ (condition → kept = all)

theorem Keeps.sum {α β : Type} (condition : α → Prop) (kept : β → Nat) (all : α → Nat)
    {as : List α} {bs : List β}
    (h : List.Forall₂ (fun a b => Keeps (condition a) (kept b) (all a)) as bs) :
    Keeps (∀ a ∈ as, condition a) (bs.map kept).sum (as.map all).sum := by
  induction h with
  | nil => exact ⟨Nat.le_refl 0, fun _ => rfl⟩
  | cons hab _ ih =>
    simp only [List.map_cons, List.sum_cons]
    refine ⟨Nat.add_le_add hab.1 ih.1, fun hall => ?_⟩
    obtain ⟨ha, has⟩ := List.forall_mem_cons.mp hall
    rw [hab.2 ha, ih.2 has]

/-- The number of items where messages stand, in a value and in the values inside an item. -/
theorem length_messageItems_array (items : List Json) :
    (Json.array items).messageItems.length =
      (items.map fun item => 1 + (item.inside.map fun v => v.messageItems.length).sum).sum := by
  rw [Json.messageItems_array, List.length_append, List.length_flatMap]
  simp only [List.length_flatMap]
  induction items with
  | nil => rfl
  | cons item items ih =>
    simp only [List.length_cons, List.map_cons, List.sum_cons]
    omega

/-- A pattern has at most as many elements as its value has items where messages stand. -/
def KeepsItems (v : Json) (p : Pattern) : Prop :=
  Keeps v.KeysApart (Pattern.size p) v.messageItems.length

/-- A table keeps the elements in its branches, if their keys differ. -/
theorem keeps_table (bs : Branches) :
    Keeps (bs.map Prod.fst).Nodup (Branches.size (Table.ofList bs)) (Branches.size bs) := by
  simp only [Branches.size_eq_sum]
  constructor
  · obtain ⟨kept, hperm, hsublist⟩ := Table.ofList_subperm bs
    rw [← (hperm.map _).sum_nat]
    exact (hsublist.map _).sum_le_sum fun _ _ => Nat.zero_le _
  · intro hkeys
    exact ((Table.ofList_perm hkeys).map _).sum_nat

/-- The keys of branches are those of the members, without the blanks around them. -/
theorem keys_of_branchesMean {inner : Json → Pattern → Prop} {members : List (String × Json)}
    {branches : List (String × Pattern)}
    (h : List.Forall₂ (BranchMeans inner) members branches) :
    branches.map Prod.fst = members.map fun m => Text.trim m.1 := by
  induction h with
  | nil => rfl
  | cons hm _ ih =>
    cases hm with
    | member _ => rw [List.map_cons, List.map_cons, ih]

theorem keeps_of_branchesMean {members : List (String × Json)}
    {branches : List (String × Pattern)}
    (h : List.Forall₂ (BranchMeans KeepsItems) members branches) :
    Keeps (∀ m ∈ members, m.2.KeysApart) (Branches.size branches)
      (members.map fun m => m.2.messageItems.length).sum := by
  rw [Branches.size_eq_sum]
  refine Keeps.sum (fun m => m.2.KeysApart) _ _ (h.imp fun m b hb => ?_)
  cases hb with
  | member hp => exact hp

theorem keeps_of_children {entry : Option Json} {children : Pattern}
    (h : OptionalMeans [] KeepsItems entry children) :
    Keeps (∀ v ∈ entry.toList, v.KeysApart) (Pattern.size children)
      (entry.toList.map fun v => v.messageItems.length).sum := by
  cases h with
  | missing => exact ⟨Nat.le_refl 0, fun _ => rfl⟩
  | null =>
    have hnull : Json.null.messageItems = [] := by simp [Json.messageItems]
    simp [Keeps, Pattern.size, hnull]
  | given hp => simpa [Keeps, KeepsItems] using hp

/-- An element has at most as many elements as its item has in places of messages, itself
    included, and as many if the keys of branches differ in the item and inside it. -/
theorem keeps_of_parts {item : Json} {e : Element} (h : PartsMean KeepsItems item e) :
    Keeps (item.KeysDiffer ∧ ∀ v ∈ item.inside, v.KeysApart) e.size
      (1 + (item.inside.map fun v => v.messageItems.length).sum) := by
  -- the branches, the children and the table of branches each keep what they can
  obtain ⟨branches, hbranches, htable⟩ := h.branches
  obtain ⟨hbranchesLe, hbranchesEq⟩ := keeps_of_branchesMean hbranches
  obtain ⟨hchildrenLe, hchildrenEq⟩ := keeps_of_children h.children
  obtain ⟨htableLe, htableEq⟩ := keeps_table branches
  rw [keys_of_branchesMean hbranches] at htableEq
  rw [Element.size_eq, htable, Json.inside, List.map_append, List.sum_append, List.map_map]
  constructor
  · exact Nat.add_le_add_left (Nat.add_le_add (Nat.le_trans htableLe hbranchesLe) hchildrenLe) 1
  · rintro ⟨hkeys, hinside⟩
    obtain ⟨hmembers, hvalue⟩ := List.forall_mem_append.mp hinside
    have hmembers : ∀ m ∈ item.branchMembers, m.2.KeysApart :=
      fun m hm => hmembers m.2 (List.mem_map_of_mem hm)
    rw [htableEq hkeys, hbranchesEq hmembers, hchildrenEq hvalue]
    rfl

/-- **Elements kept**: a value has at least as many items where messages stand as its
    pattern has elements, and no more if the keys of branches differ. -/
theorem Denotes.keepsItems {v : Json} {p : Pattern} (h : Denotes v p) : KeepsItems v p := by
  refine h.induct fun items p hitems => ?_
  have hsum := Keeps.sum (fun item : Json => item.KeysDiffer ∧ ∀ v ∈ item.inside, v.KeysApart)
    Element.size (fun item => 1 + (item.inside.map fun v => v.messageItems.length).sum)
    (hitems.imp fun item e he => keeps_of_parts (parts_of_itemMeans he))
  unfold KeepsItems
  rw [length_messageItems_array, Pattern.size_eq_sum]
  exact ⟨hsum.1, fun hapart => hsum.2 (Json.keysApart_array_iff.mp hapart)⟩

/-- Every item where a message stands has a meaning. -/
theorem Denotes.exists_of_mem_messageItems {v : Json} {p : Pattern} (h : Denotes v p) :
    ∀ item ∈ v.messageItems, ∃ e, ItemMeans Denotes item e := by
  suffices Denotes v p ∧ ∀ item ∈ v.messageItems, ∃ e, ItemMeans Denotes item e from this.2
  -- the meaning of the values inside is carried along, for the items that they are inside of
  refine h.induct (motive := fun v p =>
    Denotes v p ∧ ∀ item ∈ v.messageItems, ∃ e, ItemMeans Denotes item e) ?_
  intro items p hitems
  have hmeanings : List.Forall₂ (ItemMeans Denotes) items p :=
    itemsMean_mono hitems fun _ _ _ hp => hp.1
  refine ⟨.array hmeanings, ?_⟩
  rw [Json.messageItems_array, List.forall_mem_append]
  constructor
  · intro item hitem
    obtain ⟨e, -, he⟩ := exists_of_mem_left hmeanings item hitem
    exact ⟨e, he⟩
  · intro inner hinner
    obtain ⟨item, hitem, hinner⟩ := List.mem_flatMap.mp hinner
    obtain ⟨v, hv, hinner⟩ := List.mem_flatMap.mp hinner
    obtain ⟨e, -, he⟩ := exists_of_mem_left hitems item hitem
    rcases exists_of_mem_inside (parts_of_itemMeans he) hv with rfl | ⟨q, -, hq⟩
    · simp [Json.messageItems] at hinner
    · exact hq inner hinner

end Grammar

namespace Pattern

open Grammar

/-- **What decoding keeps.** A value that is accepted has at least as many items where
    messages stand as the pattern has elements, and no more if the keys of branches differ
    without the blanks around them. Each of these items is decoded to an element, and it has
    a branch for each member of its object just if the keys of the item differ so. -/
theorem decoding_keeps_elements {v : Json} {p : Pattern} (h : ofJson v = .ok p) :
    Pattern.size p ≤ v.messageItems.length ∧
      (v.KeysApart → Pattern.size p = v.messageItems.length) ∧
      ∀ item ∈ v.messageItems, ∃ e branches, decodeItems [item] = .ok [e] ∧
        decodeBranches item.branchMembers = .ok branches ∧
        (e.branches.Perm branches ↔ item.KeysDiffer) := by
  -- the counts go by the meaning of the whole value, the table by that of the one item
  have hmeans := ofJson_eq_ok_iff.mp h
  obtain ⟨hle, heq⟩ := hmeans.keepsItems
  refine ⟨hle, heq, fun item hitem => ?_⟩
  obtain ⟨e, he⟩ := hmeans.exists_of_mem_messageItems item hitem
  have hdecodes : List.Forall₂ (ItemMeans Decodes) [item] [e] :=
    itemsMean_mono (.cons he .nil) fun _ _ _ hp => ofJson_eq_ok_iff.mpr hp
  have hparts := parts_of_itemMeans (List.forall₂_cons.mp hdecodes).1
  obtain ⟨branches, hbranches, htable⟩ := hparts.branches
  refine ⟨e, branches, decodeItems_eq_ok_iff.mpr hdecodes,
    decodeBranches_eq_ok_iff.mpr hbranches, ?_⟩
  rw [htable, Table.ofList_perm_iff, keys_of_branchesMean hbranches]
  rfl

/-- A choice with a blank around one key and a tag in another branch: the keys differ
    without the blank, so all four elements are kept. -/
theorem elements_of_choice_with_blank_in_key :
    let item : Json :=
      .array [.text "g", .text "select", .object [(" male", .array [.text "him"]),
        ("other", .array [.array [.text "b", .text "tag", .array [.null, .array [.text "them"]]]])]]
    let v : Json := .array [item]
    v.KeysApart ∧ ∃ p, ofJson v = .ok p ∧ Pattern.size p = 4 ∧
      ∃ e branches, decodeItems [item] = .ok [e] ∧ e.branches.Perm branches ∧
        branches.map Prod.fst = ["male", "other"] := by
  intro item v
  have hitems : v.messageItems = [item, .text "him",
      .array [.text "b", .text "tag", .array [.null, .array [.text "them"]]], .text "them"] := by
    simp [v, item, Json.messageItems_array, Json.inside, Json.branchMembers, Json.childrenValue?,
      Json.word?, Json.nth?, Json.membersOf]
  have hmembers : item.branchMembers = [(" male", .array [.text "him"]),
      ("other", .array [.array [.text "b", .text "tag", .array [.null, .array [.text "them"]]]])] :=
    by simp [item, Json.branchMembers, Json.word?, Json.nth?, Json.membersOf]
  have hkeys : Text.trim " male" = "male" ∧ Text.trim "other" = "other" := by decide
  have hown : item.KeysDiffer := by
    rw [Json.KeysDiffer, hmembers]
    simp [hkeys]
  have hapart : v.KeysApart := by
    unfold Json.KeysApart
    rw [hitems]
    refine List.forall_mem_cons.mpr ⟨hown, ?_⟩
    -- the other items are no choices
    simp [Json.KeysDiffer, Json.branchMembers, Json.word?, Json.nth?]
  have hdecoded : ∃ p, ofJson v = .ok p := ⟨_, rfl⟩
  obtain ⟨p, hp⟩ := hdecoded
  obtain ⟨-, hsize, hitem⟩ := decoding_keeps_elements hp
  refine ⟨hapart, p, hp, ?_, ?_⟩
  · rw [hsize hapart, hitems]
    rfl
  · have hmem : item ∈ v.messageItems := by
      rw [hitems]
      exact List.mem_cons_self
    obtain ⟨e, branches, he, hbranches, hperm⟩ := hitem item hmem
    refine ⟨e, branches, he, hperm.mpr (hapart item hmem), ?_⟩
    rw [keys_of_branchesMean (decodeBranches_eq_ok_iff.mp hbranches), hmembers]
    simp [hkeys]

/-- **A branch is lost** where two keys agree without the blanks around them: of four items
    only three become elements. -/
theorem branch_lost_for_blank_in_key :
    let v : Json :=
      .array [.array [.text "g", .text "select", .object [(" male", .array [.text "him"]),
        ("male", .array [.text "he"]), ("other", .array [.text "they"])]]]
    ∃ p, ofJson v = .ok p ∧ Pattern.size p = 3 ∧ v.messageItems.length = 4 := by
  intro v
  refine ⟨_, rfl, rfl, ?_⟩
  simp [v, Json.messageItems_array, Json.inside, Json.branchMembers, Json.childrenValue?,
    Json.word?, Json.nth?, Json.membersOf]

end Pattern

end Phrasebook
