import Phrasebook.Proofs.Render.Linked

/-! # Readings of arguments

    A rendering knows an argument only by what can be read off it: the text that it
    shows, the number, the moment and the handler that it is. Arguments with the same
    readings can take each other's place.
-/

namespace Phrasebook

/-! ### Values with the same readings -/

/-- Two values read the same in each of the ways in which a rendering reads arguments. -/
structure Value.SameReadings (v w : Value) : Prop where
  shown : v.shown? = w.shown?
  quantity : v.quantity? = w.quantity?
  moment : v.readMoment? = w.readMoment?
  handler : v.handler? = w.handler?

theorem Value.SameReadings.refl (v : Value) : v.SameReadings v :=
  ⟨rfl, rfl, rfl, rfl⟩

/-! ### Renderings know no more than the readings -/

/-- Environments with one localizer, whose arguments are absent under the same ids and
    otherwise have the same readings. -/
structure Environment.ReadsAlike (env env' : Environment) : Prop where
  localizer : env.localizer = env'.localizer
  arguments : ∀ id, Option.Rel Value.SameReadings (env.arguments id) (env'.arguments id)

/-- Environments that are read alike are linked by equality. -/
theorem Environment.ReadsAlike.linked {env env' : Environment} (alike : env.ReadsAlike env') :
    env.Linked Eq Eq (fun _ => True) env' := by
  refine linked_of_rel alike.localizer alike.arguments ?_ ?_ Fragment.compatible_eq
  · intro v w hsame
    exact ⟨hsame.shown, hsame.quantity, hsame.moment⟩
  · intro v w hsame
    rw [hsame.handler]
    cases w.handler? with
    | none => exact .none
    | some f => exact .some f.respects_eq

/-- **A rendering knows an argument by its readings alone**: with arguments that have the
    same readings, every template is the same computation. -/
theorem Template.render_congr {env env' : Environment} (alike : env.ReadsAlike env')
    (t : Template) : t.render env = t.render env' :=
  (lockstep alike.linked (t.tagsIn_of_forall fun _ => trivial)).eq

/-! ### Arguments given in other words -/

def Arguments.respell (spell : Value → Value) (chosen : String → Bool) (arguments : Arguments) :
    Arguments :=
  fun id => if chosen id then (arguments id).map spell else arguments id

/-- Values in words with the same readings leave all readings as they were. -/
theorem Arguments.sameReadings_respell {spell : Value → Value} {chosen : String → Bool}
    {arguments : Arguments}
    (h : ∀ id v, chosen id = true → arguments id = some v → (spell v).SameReadings v)
    (id : String) :
    Option.Rel Value.SameReadings (arguments.respell spell chosen id) (arguments id) := by
  unfold respell
  -- absent ids stay absent; of the others only the chosen ones are given as texts
  cases harg : arguments id with
  | none =>
    rw [Option.map_none, ite_self]
    exact .none
  | some v =>
    by_cases hchosen : chosen id = true
    · rw [if_pos hchosen]
      exact .some (h id v hchosen harg)
    · rw [if_neg hchosen]
      exact .some (.refl v)

/-- Values that are given in words with the same readings change nothing. -/
theorem Template.run_respell {spell : Value → Value} {chosen : String → Bool}
    {arguments : Arguments} (t : Template) (localizer : Localizer)
    (h : ∀ id v, chosen id = true → arguments id = some v → (spell v).SameReadings v) :
    t.run ⟨arguments.respell spell chosen, localizer⟩ = t.run ⟨arguments, localizer⟩ := by
  have alike : Environment.ReadsAlike ⟨arguments.respell spell chosen, localizer⟩
      ⟨arguments, localizer⟩ :=
    ⟨rfl, Arguments.sameReadings_respell h⟩
  rw [run_eq, run_eq, render_congr alike t]

end Phrasebook
