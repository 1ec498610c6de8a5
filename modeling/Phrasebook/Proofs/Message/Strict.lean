import Mathlib.Data.List.Nodup
import Phrasebook.Message
import Phrasebook.Proofs.Render.Asked

/-! # Strict messages

    A strict message refuses to be formatted without one of the arguments that its
    pattern asks for. Which ones it asks for is said by the walk `Pattern.asked`
    along the branches that are taken; the refusal names each absent one once, in
    the order in which they were first asked for. An error of the rendering itself
    comes before any refusal.
-/

namespace Phrasebook

/-! ### Each id once -/

/-- The ids of a list, each once, in the order of their first occurrences. -/
structure FirstOccurrences (ids distinct : List String) : Prop where
  nodup : distinct.Nodup
  mem_iff : ∀ id, id ∈ distinct ↔ id ∈ ids
  in_order : distinct.Pairwise fun a b => ids.idxOf a < ids.idxOf b

/-- Taking one id away keeps the order in which the others first occur. -/
theorem idxOf_lt_of_filter {a b id : String} {ids : List String} (ha : a ≠ id) (hb : b ≠ id)
    (h : (ids.filter fun x => !x == id).idxOf a < (ids.filter fun x => !x == id).idxOf b) :
    ids.idxOf a < ids.idxOf b := by
  -- induction on the list: only the entries in front of both ids can be taken away
  induction ids with
  | nil => simp at h
  | cons x ids ih =>
    by_cases hx : x = id
    · subst hx
      have hdrop : ((x :: ids).filter fun y => !y == x) = ids.filter fun y => !y == x := by simp
      rw [hdrop] at h
      rw [List.idxOf_cons_ne _ (Ne.symm ha), List.idxOf_cons_ne _ (Ne.symm hb)]
      exact Nat.succ_lt_succ (ih h)
    · have hkeep : ((x :: ids).filter fun y => !y == id) =
          x :: ids.filter fun y => !y == id := by simp [hx]
      rw [hkeep] at h
      by_cases hxa : x = a
      · subst hxa
        have hne : x ≠ b := by
          rintro rfl
          exact absurd h (Nat.lt_irrefl _)
        rw [List.idxOf_cons_self, List.idxOf_cons_ne _ hne]
        exact Nat.succ_pos _
      · by_cases hxb : x = b
        · subst hxb
          rw [List.idxOf_cons_self] at h
          exact absurd h (Nat.not_lt_zero _)
        · rw [List.idxOf_cons_ne _ hxa, List.idxOf_cons_ne _ hxb] at h ⊢
          exact Nat.succ_lt_succ (ih (Nat.lt_of_succ_lt_succ h))

/-- Dropping repeats keeps the order of first occurrences. -/
theorem pairwise_idxOf_eraseDups (ids : List String) :
    ids.eraseDups.Pairwise fun a b => ids.idxOf a < ids.idxOf b := by
  -- each step takes all occurrences of the first id away, so the lists get shorter
  induction hn : ids.length using Nat.strong_induction_on generalizing ids with
  | _ n ih =>
    cases ids with
    | nil => exact List.Pairwise.nil
    | cons id ids =>
      have hshorter : (ids.filter fun x => !x == id).length < n := by
        have hle := List.length_filter_le (fun x => !x == id) ids
        rw [← hn, List.length_cons]
        omega
      rw [List.eraseDups_cons, List.pairwise_cons]
      have hne : ∀ a ∈ (ids.filter fun x => !x == id).eraseDups, a ≠ id := by
        intro a ha
        rw [List.mem_eraseDups, List.mem_filter] at ha
        simpa using ha.2
      constructor
      · intro b hb
        rw [List.idxOf_cons_self, List.idxOf_cons_ne _ (Ne.symm (hne b hb))]
        exact Nat.succ_pos _
      · refine (ih _ hshorter _ rfl).imp_of_mem fun {a b} ha hb hab => ?_
        rw [List.idxOf_cons_ne _ (Ne.symm (hne a ha)), List.idxOf_cons_ne _ (Ne.symm (hne b hb))]
        exact Nat.succ_lt_succ (idxOf_lt_of_filter (hne a ha) (hne b hb) hab)

theorem Absences.firstOccurrences_distinct (a : Absences) :
    FirstOccurrences a.ids a.distinct where
  nodup := (pairwise_idxOf_eraseDups a.ids).imp fun h heq => by
    subst heq
    exact Nat.lt_irrefl _ h
  mem_iff := fun id => List.mem_eraseDups
  in_order := pairwise_idxOf_eraseDups a.ids

/-! ### Formatting -/

/-- A message is formatted to the content of its rendering, unless it is strict and
    something is absent. -/
theorem Message.formatFragment_of_ok {m : Message} {args : Arguments} {r : Rendering}
    (hrun : m.template.run ⟨args, m.localizer⟩ = .ok r) :
    m.formatFragment args =
      if m.strict = true ∧ r.absences.ids ≠ [] then .error (.missingArguments r.absences.distinct)
      else .ok r.content := by
  unfold formatFragment
  rw [hrun]
  have hcond : (m.strict && !r.absences.isEmpty) = true ↔
      m.strict = true ∧ r.absences.ids ≠ [] := by
    simp [Absences.isEmpty]
  simp only [hcond]

/-- The error of a rendering is the error of the message, whatever was absent before it. -/
theorem Message.formatFragment_of_error {m : Message} {args : Arguments} {e : RenderError}
    {s : CallState}
    (h : (m.template.render ⟨args, m.localizer⟩).outcome .start = (.error e, s)) :
    m.formatFragment args = .error (.render e) := by
  have hrun : m.template.run ⟨args, m.localizer⟩ = .error e := by
    rw [Template.run_eq, h]
  unfold formatFragment
  rw [hrun]

/-- **Absences and strict messages.** Take any message for a pattern that compiles, any
    localizer and any arguments. A rendering that succeeds records the absent ones
    among the arguments that the pattern asks for along the branches taken, repeats
    kept. The message then shows the content, unless it is strict and something is
    absent: it names each absent argument once, in the order of first occurrence. An
    error of the rendering is the error of the message, strict or not, whatever had
    been recorded before it. -/
theorem strict_message_names_absences {p : Pattern} (ordered : p.Ordered) {m : Message}
    (h : Template.compile p = .ok m.template) (args : Arguments) :
    let env : Environment := ⟨args, m.localizer⟩
    let absent := env.absentAmong (Pattern.asked env none p)
    (∀ r, m.template.run env = .ok r →
      r.absences.ids = absent ∧
        if m.strict = true ∧ absent ≠ [] then
          ∃ ids, m.formatFragment args = .error (.missingArguments ids) ∧
            FirstOccurrences absent ids
        else m.formatFragment args = .ok r.content) ∧
    ∀ e s, (m.template.render env).outcome .start = (.error e, s) →
      m.formatFragment args = .error (.render e) := by
  intro env absent
  refine ⟨fun r hrun => ?_, fun e s herror => Message.formatFragment_of_error herror⟩
  have hids : r.absences.ids = absent := Template.absences_of_run ordered h hrun
  refine ⟨hids, ?_⟩
  rw [Message.formatFragment_of_ok hrun, hids]
  split
  · refine ⟨r.absences.distinct, rfl, ?_⟩
    have hfirst := r.absences.firstOccurrences_distinct
    rw [hids] at hfirst
    exact hfirst
  · rfl

/-- A plural without its number and a select inside it: the `#` asks for the number
    once more, the tag is no argument, and the branch not taken asks for nothing. -/
theorem absences_along_branches :
    let p : Pattern :=
      [.argument "b", .tag "x" "" [.argument "a"],
        .plural "n" .cardinal 0 [("other",
          [.pound, .select "g" [("male", [.argument "him"]), ("other", [.argument "b"])]])]]
    let args := Arguments.ofList [("a", .text "A")]
    let localizer : Localizer :=
      ⟨"und", fun _ _ => .ok .other, fun _ _ => .ok "", fun _ _ _ => .ok ""⟩
    p.Ordered ∧ ∃ m r, Message.withLocalizer localizer "und" true p = .ok m ∧
      m.template.run ⟨args, m.localizer⟩ = .ok r ∧
      r.absences.ids = ["b", "n", "n", "g", "b"] ∧
      ∃ ids, m.formatFragment args = .error (.missingArguments ids) ∧
        FirstOccurrences ["b", "n", "n", "g", "b"] ids := by
  intro p args localizer
  have hkeys : "male" < "other" := by decide
  have ordered : p.Ordered := by
    simp only [p, Pattern.ordered_cons_iff, Pattern.ordered_nil, Pattern.orderedParts_iff,
      Element.branches, Element.children, Table.Ascending, List.pairwise_cons, List.Pairwise.nil,
      List.mem_cons, List.not_mem_nil, or_false, forall_eq_or_imp, forall_eq, hkeys,
      IsEmpty.forall_iff, implies_true, and_self]
  let m : Message :=
    { template := .sequence [.argument "b", .tag "x" "" (.argument "a"),
        .plural "n" .cardinal 0 [] [] (.sequence [.number "n" 0 .plain,
          .select "g" [("male", .argument "him")] (.argument "b")])]
      localizer := localizer
      locale := "und"
      strict := true }
  have hcompile : Template.compile p = .ok m.template := rfl
  have hrun : ∃ r, m.template.run ⟨args, m.localizer⟩ = .ok r := ⟨_, rfl⟩
  obtain ⟨r, hr⟩ := hrun
  obtain ⟨hids, hrefused⟩ := (strict_message_names_absences ordered hcompile args).1 r hr
  -- asked in the order of the pattern; the branch of the select not taken is left out
  have habsent : Environment.absentAmong ⟨args, m.localizer⟩
      (Pattern.asked ⟨args, m.localizer⟩ none p) = ["b", "n", "n", "g", "b"] := by
    decide
  rw [habsent] at hids hrefused
  rw [if_pos ⟨rfl, List.cons_ne_nil _ _⟩] at hrefused
  exact ⟨ordered, m, r, rfl, hr, hids, hrefused⟩

end Phrasebook
