import Phrasebook.Text.Markup

/-! # Escaped texts

    A text that is escaped for markup holds no markup characters, and each of its
    ampersands begins an entity. So entities do not overlap, and putting the characters
    back in one pass from left to right gives the text that was escaped, even if that
    had entities in it.
-/

namespace Phrasebook

/-! ### Markup characters -/

/-- The characters that open, close or quote in markup. -/
def markupChars : List Char := ['<', '>', '\x22', '\'']

def markup (s : String) : List Char :=
  s.toList.filter fun c => c ∈ markupChars

@[simp] theorem markup_append (s t : String) : markup (s ++ t) = markup s ++ markup t := by
  simp [markup]

theorem not_mem_markupChars_of_mem_escapedChar {c d : Char} (h : d ∈ Text.escapedChar c) :
    d ∉ markupChars := by
  unfold Text.escapedChar at h
  split at h
  case h_6 hlt hgt hamp hquote hdouble =>
    obtain rfl : d = c := by simpa using h
    simp only [markupChars, List.mem_cons, List.not_mem_nil, or_false, not_or]
    exact ⟨hlt, hgt, hdouble, hquote⟩
  -- the replacements are short texts, of which every character is checked
  all_goals
    have hcheck := @List.all_eq_true _ fun d => decide (d ∉ markupChars)
    exact of_decide_eq_true (hcheck.mp (by decide) d h)

theorem markup_escaped (s : String) : markup (Text.escaped s) = [] := by
  unfold markup
  rw [Text.toList_escaped, List.filter_eq_nil_iff]
  intro d hd
  obtain ⟨c, _, hc⟩ := List.mem_flatMap.mp hd
  simpa using not_mem_markupChars_of_mem_escapedChar hc

namespace Text

/-! ### Entities -/

/-- The entities that stand for the characters of HTML. -/
def entities : List String := ["&lt;", "&gt;", "&amp;", "&#39;", "&quot;"]

/-- The entities are put back into the characters that they stand for, in one pass from
    left to right: what has been put back is not looked at again. -/
def unescapedChars : List Char → List Char
  | [] => []
  | '&' :: 'l' :: 't' :: ';' :: cs => '<' :: unescapedChars cs
  | '&' :: 'g' :: 't' :: ';' :: cs => '>' :: unescapedChars cs
  | '&' :: 'a' :: 'm' :: 'p' :: ';' :: cs => '&' :: unescapedChars cs
  | '&' :: '#' :: '3' :: '9' :: ';' :: cs => '\'' :: unescapedChars cs
  | '&' :: 'q' :: 'u' :: 'o' :: 't' :: ';' :: cs => '\x22' :: unescapedChars cs
  | c :: cs => c :: unescapedChars cs

def unescaped (s : String) : String :=
  String.ofList (unescapedChars s.toList)

/-- A character is escaped as an entity, or stands as it is and is no ampersand. -/
theorem escapedChar_cases (c : Char) :
    (∃ e ∈ entities, escapedChar c = e.toList) ∨ escapedChar c = [c] ∧ c ≠ '&' := by
  unfold escapedChar
  split
  case h_6 _ _ hamp _ _ => exact Or.inr ⟨rfl, hamp⟩
  · exact Or.inl ⟨"&lt;", by decide, by decide⟩
  · exact Or.inl ⟨"&gt;", by decide, by decide⟩
  · exact Or.inl ⟨"&amp;", by decide, by decide⟩
  · exact Or.inl ⟨"&#39;", by decide, by decide⟩
  · exact Or.inl ⟨"&quot;", by decide, by decide⟩

/-- Behind its beginning no entity has an ampersand. -/
theorem ampersand_not_mem_tail : ∀ e ∈ entities, '&' ∉ e.toList.tail := by
  decide

/-- An ampersand in an escaped character is the beginning of what the character is
    escaped as, which is an entity. -/
theorem entity_of_ampersand {c : Char} {before after : List Char}
    (h : escapedChar c = before ++ '&' :: after) : ∃ e ∈ entities, e.toList = '&' :: after := by
  rcases escapedChar_cases c with ⟨e, he, hc⟩ | ⟨hc, hplain⟩
  · rw [hc] at h
    cases before with
    | nil => exact ⟨e, he, h⟩
    | cons b before =>
      -- any other place of the ampersand is in the tail
      have hmem : '&' ∈ e.toList.tail := by
        rw [h]
        simp
      exact absurd hmem (ampersand_not_mem_tail e he)
  · have hmem : '&' ∈ escapedChar c := by
      rw [h]
      simp
    rw [hc, List.mem_singleton] at hmem
    exact absurd hmem.symm hplain

/-- Each ampersand of escaped characters begins an entity. -/
theorem entity_of_suffix {cs rest : List Char} (h : '&' :: rest <:+ cs.flatMap escapedChar) :
    ∃ e ∈ entities, e.toList <+: '&' :: rest := by
  induction cs with
  | nil =>
    obtain ⟨before, h⟩ := h
    simp at h
  | cons c cs ih =>
    rw [List.flatMap_cons] at h
    obtain ⟨before, h⟩ := h
    -- where the first character ends, the ampersand has begun already or is still to come
    rcases List.append_eq_append_iff.mp h with ⟨between, hchar, hrest⟩ | ⟨between, hchar, hrest⟩
    · -- the ampersand stands in the first character as it is escaped
      cases between with
      | nil => exact ih ⟨[], hrest⟩
      | cons d between =>
        obtain ⟨rfl, rfl⟩ := List.cons.inj hrest
        obtain ⟨e, he, hentity⟩ := entity_of_ampersand hchar
        refine ⟨e, he, ?_⟩
        rw [hentity]
        exact List.prefix_append _ _
    · exact ih ⟨between, hrest.symm⟩

/-- Only an ampersand begins an entity. -/
theorem unescapedChars_cons {c : Char} (h : c ≠ '&') (cs : List Char) :
    unescapedChars (c :: cs) = c :: unescapedChars cs := by
  rw [unescapedChars]
  all_goals exact fun _ hc => absurd hc h

theorem unescapedChars_escapedChar (c : Char) (cs : List Char) :
    unescapedChars (escapedChar c ++ cs) = c :: unescapedChars cs := by
  unfold escapedChar
  split
  case h_6 _ _ hamp _ _ => exact unescapedChars_cons hamp cs
  all_goals rfl

theorem unescapedChars_flatMap (cs : List Char) :
    unescapedChars (cs.flatMap escapedChar) = cs := by
  induction cs with
  | nil => rfl
  | cons c cs ih => rw [List.flatMap_cons, unescapedChars_escapedChar, ih]

/-- Putting characters back undoes escaping. -/
theorem unescaped_escaped (s : String) : unescaped (escaped s) = s := by
  rw [unescaped, toList_escaped, unescapedChars_flatMap, String.ofList_toList]

/-- **Escaping loses nothing and leaves no markup.** An escaped text has no markup
    characters, and each ampersand in it begins an entity. Putting the characters back in
    one pass gives the text that was escaped, so no two texts are escaped alike. -/
theorem escaping_is_lossless (s : String) :
    (∀ c ∈ markupChars, c ∉ (escaped s).toList) ∧
      (∀ rest, '&' :: rest <:+ (escaped s).toList → ∃ e ∈ entities, e.toList <+: '&' :: rest) ∧
      unescaped (escaped s) = s ∧
      ∀ t, escaped s = escaped t → s = t := by
  refine ⟨?_, ?_, unescaped_escaped s, ?_⟩
  · intro c hc hmem
    have hmarkup : c ∈ markup (escaped s) := List.mem_filter.mpr ⟨hmem, by simpa using hc⟩
    rw [markup_escaped] at hmarkup
    exact List.not_mem_nil hmarkup
  · intro rest h
    rw [toList_escaped] at h
    exact entity_of_suffix h
  · intro t h
    rw [← unescaped_escaped s, h, unescaped_escaped]

/-- A text that is escaped already is escaped once more, and comes back as it was. -/
example : escaped "&amp;lt;" = "&amp;amp;lt;" ∧ unescaped "&amp;amp;lt;" = "&amp;lt;" := by
  decide

end Text

end Phrasebook
