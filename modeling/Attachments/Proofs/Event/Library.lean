import Attachments.Event.Dressing
import Attachments.Proofs.Event.Console
import Attachments.Supplied.Event.Library

/-!
Contract: what follows from the documented behaviour of the library of logging.

Owns:
- context variables in the order in which they are visited, in which all of them are found, and
  which changes of values leave alone;
- the event that the mask gets, as the event of a call with all that is added to it;
- that the library as it is known behaves as documented.

Does not own: what the mask makes of an event.
-/

namespace Attachments

/-! ## Context variables as they are visited -/

namespace Event

variable (order : List String → List String) (context : Event)

theorem get?_found (names : List String) (name : String) :
    Fields.get?
        (names.filterMap fun known => (context.get? known).map fun value => (known, value)) name =
      if name ∈ names then context.get? name else none := by
  induction names with
  | nil => rfl
  | cons known rest inductionHypothesis =>
    rw [List.filterMap_cons]
    by_cases same : known = name
    · subst same
      cases found : context.get? known with
      | none => simp [inductionHypothesis, found]
      | some value => simp [Fields.get?]
    · cases found : context.get? known <;>
        simp [Fields.get?, same, Ne.symm same, inductionHypothesis]

theorem get?_visited
    {order : List String → List String}
    (once : ∀ names, (order names).Perm names)
    (name : String) :
    (context.visited order).get? name = context.get? name := by
  rw [visited, get?_found]
  split
  next => rfl
  next absent =>
    rw [(once _).mem_iff, ← Fields.has_iff_mem, Bool.not_eq_true] at absent
    exact ((Fields.get?_eq_none_iff context name).mpr absent).symm

/-- Context variables with the same names are visited alike. -/
theorem visited_agree
    {compared : String → Prop}
    {context other : Event}
    (agree : Fields.AgreeOn compared context other) :
    Fields.AgreeOn compared (context.visited order) (other.visited order) := by
  rw [visited, visited, ← agree.names_eq]
  induction order (context.map Prod.fst) with
  | nil => exact .nil
  | cons name rest inductionHypothesis =>
    rw [List.filterMap_cons, List.filterMap_cons]
    rcases agree.get?_cases name with
      ⟨none, otherNone⟩ | ⟨value, otherValue, found, otherFound, same⟩
    · rw [none, otherNone]
      exact inductionHypothesis
    · rw [found, otherFound]
      exact .cons same inductionHypothesis

theorem visited_mapValues (change : EventValue → EventValue) :
    visited order (context.mapValues change) = Fields.mapValues change (visited order context) := by
  rw [visited, visited, Fields.names_mapValues]
  induction order (context.map Prod.fst) with
  | nil => rfl
  | cons name rest inductionHypothesis =>
    rw [List.filterMap_cons, List.filterMap_cons, Fields.get?_mapValues]
    cases context.get? name with
    | none => exact inductionHypothesis
    | some value => exact congrArg ((name, change value) :: ·) inductionHypothesis

end Event

/-! ## The library -/

namespace LogLibrary

/-- The mask gets the event with context variables, severity and time. -/
theorem Documented.gathered_eq
    {library : LogLibrary}
    (documented : library.Documented)
    (event context : Event)
    (level : Level)
    (time : String) :
    Event.gathered library event context level time =
      (event.withContext (context.visited library.order)).stamped level time := by
  rw [Event.gathered, documented.merges, documented.levels, documented.times, Event.stamped]

/-- The library as it is known behaves as documented. -/
theorem standard_documented : standard.Documented where
  visitsOnce names := .refl names
  merges _ _ := rfl
  levels _ _ := rfl
  times _ _ := rfl
  unasked handled? event absent := by
    rw [Fields.has_eq_isSome, Option.isSome_eq_false_iff, Option.isNone_iff_eq_none] at absent
    simp only [standard, reported, absent]
  asked handled? event found := by
    have wanted : (handled?.filter fun _ => EventValue.truthy (.value (.bool true))) = handled? :=
      by cases handled? <;> rfl
    simp only [standard, reported, found, wanted]
  dumps _ := rfl
  shows event plain := by
    refine Console.exists_line (fun field member => (plain field member).2.2) ?_ ?_
    · exact Fields.get?_eq_none_of_ne fun field member => (plain field member).1
    · exact Fields.get?_eq_none_of_ne fun field member => (plain field member).2.1
  binds _ := rfl
  keeps _ := rfl

end LogLibrary

end Attachments
