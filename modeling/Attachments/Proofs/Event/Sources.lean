import Attachments.Event.Profile
import Attachments.Proofs.Event.Library
import Attachments.Proofs.Event.Redaction
import Attachments.Proofs.Problem.Arguments

/-!
Contract: where the fields of a shown event come from.

Owns:
- which calls with a text for a message are taken, and their events;
- what is read of an event after each step of its dressing;
- the field of each name in the shown event of a call, by the three sources of named values and the
  report of the exception that is being handled.

Does not own: how the shown event is written.
-/

namespace Attachments

/-! ## Steps of dressing -/

namespace Event

theorem get?_withContext (event context : Event) (name : String) :
    (withContext event context).get? name = (event.get? name).or (context.get? name) :=
  Fields.get?_foldl_putNew event name context

theorem get?_stamped (event : Event) (level : Level) (time name : String) :
    (stamped event level time).get? name =
      if "timestamp" == name then some (.ofText time)
      else if "level" == name then some (.ofText level.label)
      else event.get? name := by
  rw [stamped, Fields.get?_put, Fields.get?_put]

theorem get?_redacted (event : Event) (name : String) :
    (redacted event).get? name = (event.get? name).map fun value => shownValue (name, value) := by
  rw [redacted_eq_map, Fields.get?_map]

/-- The report is read under its own name, nothing under that of the request, and all else as
before. -/
theorem get?_withReport (event : Event) (handled? : Option String) (name : String) :
    (withReport event handled?).get? name =
      (if "exception" == name then handled?.map .ofText else none).or
        (if "exc_info" == name then none else event.get? name) := by
  unfold withReport
  cases handled? with
  | none => simp [Fields.get?_erase]
  | some report =>
    rw [Fields.get?_put, Fields.get?_erase]
    by_cases isReport : "exception" = name <;> simp [isReport]

theorem distinct_redacted {event : Event} (distinct : Fields.Distinct event) :
    Fields.Distinct (redacted event) := by
  rw [redacted_eq_map, Fields.Distinct, List.map_map]
  exact distinct

theorem distinct_withReport
    {event : Event}
    (distinct : Fields.Distinct event)
    (handled? : Option String) :
    Fields.Distinct (withReport event handled?) := by
  have rest : Fields.Distinct (event.erase "exc_info") :=
    List.Nodup.sublist (List.filter_sublist.map Prod.fst) distinct
  unfold withReport
  cases handled? with
  | none => exact rest
  | some report => exact rest.put _ _

end Event

/-! ## Calls with a text for a message -/

namespace Call

variable (method : Method) (message : String) (named : Event) (handled? : Option String)

/-- A call with a text for a message, which has no places to fill, and with named values. -/
def ofText : Call :=
  ⟨method, .text message, [], named.rename .text, handled?⟩

/-- No named value has a name under which every call gives something by position. -/
def IsFree (named : Event) : Prop :=
  named.has "self" = false ∧ named.has "event" = false

instance : Decidable (IsFree named) :=
  inferInstanceAs (Decidable (_ ∧ _))

theorem find?_eq_none_iff_isFree :
    (named.find? fun field => field.1 == "self" || field.1 == "event") = none ↔ IsFree named := by
  simp only [IsFree, ← Bool.not_eq_true, Fields.has_iff_mem, List.find?_eq_none, List.mem_map]
  constructor
  · intro none
    exact ⟨fun ⟨field, member, same⟩ => none field member (by simp [same]),
      fun ⟨field, member, same⟩ => none field member (by simp [same])⟩
  · rintro ⟨noSelf, noEvent⟩ field member reserved
    simp only [Bool.or_eq_true, beq_iff_eq] at reserved
    exact reserved.elim (fun same => noSelf ⟨field, member, same⟩)
      fun same => noEvent ⟨field, member, same⟩

/-- Such a call is taken if its named values are free, and is a misuse otherwise. -/
theorem taken_ofText (shown : Bool) :
    (IsFree named → (ofText method message named handled?).taken shown = .ok named) ∧
      (¬ IsFree named → ∃ receiver misuse,
        (ofText method message named handled?).taken shown =
          .error (.misusedCall receiver misuse)) := by
  have names : Datum.namedArguments (ofText method message named handled?).named = .ok named :=
    Datum.namedArguments_rename named
  rw [← find?_eq_none_iff_isFree]
  constructor
  · intro none
    simp [taken, names, bind, Except.bind, none]
  · intro someField
    obtain ⟨field, found⟩ := Option.ne_none_iff_exists'.mp someField
    exact ⟨_, .repeated field.1, by simp [taken, names, bind, Except.bind, found]; rfl⟩

theorem has_completed (name : String) (other : name ≠ "exc_info") :
    (completed method named).has name = named.has name := by
  cases method with
  | exception =>
    rw [completed, Fields.has_eq_isSome, Fields.get?_putNew, Fields.has_eq_isSome]
    simp [Fields.get?, other.symm]
  | _ => rfl

theorem event_of_isFree {named : Event} (free : IsFree named) (bound : Event) :
    (ofText method message named handled?).event bound =
      (handedOn (completed method named)).map fun fields =>
        (bound.putAll fields).put "event" (.ofText message) := by
  rw [event, (taken_ofText method message named handled? true).1 free]
  cases handed : handedOn (completed method named) <;>
    simp [bind, Except.bind, Except.map, logged, ofText, handed, EventValue.ofText]

/-- The event of such a call, if no named value has the name of anything that the call gives
besides; otherwise the call is a misuse. -/
theorem event_ofText (bound : Event) :
    (IsFree named → named.has "method_name" = false →
      (ofText method message named handled?).event bound =
        .ok ((bound.putAll (completed method named)).put "event" (.ofText message))) ∧
      (¬ IsFree named ∨ named.has "method_name" = true →
        ∃ receiver misuse, (ofText method message named handled?).event bound =
          .error (.misusedCall receiver misuse)) := by
  have sameName := has_completed method named "method_name" (by decide)
  constructor
  · intro free noMethodName
    have handed : handedOn (completed method named) = .ok (completed method named) := by
      rw [handedOn, sameName, noMethodName]
      rfl
    rw [event_of_isFree method message handled? free, handed]
    rfl
  · intro reserved
    by_cases free : IsFree named
    · have methodName : named.has "method_name" = true := reserved.resolve_left (not_not_intro free)
      have refused : handedOn (completed method named) =
          .error (.misusedCall "BoundLoggerBase._proxy_to_logger" (.repeated "method_name")) := by
        rw [handedOn, sameName, if_pos methodName]
      refine ⟨"BoundLoggerBase._proxy_to_logger", .repeated "method_name", ?_⟩
      rw [event_of_isFree method message handled? free, refused]
      rfl
    · obtain ⟨receiver, misuse, misused⟩ := (taken_ofText method message named handled? true).2 free
      refine ⟨receiver, misuse, ?_⟩
      rw [event, misused]
      rfl

/-! ## The shown event -/

/-- The exception at hand, if the method asks for it. -/
def report? : Option String :=
  if method = .exception then handled? else none

/-- The event of a call with a text for a message, as the mask leaves it. -/
def maskedEvent (library : LogLibrary) (bound context : Event) (time : String) : Event :=
  let event := (bound.putAll (completed method named)).put "event" (.ofText message)
  Event.redacted (Event.gathered library event context method.level time)

/-- The event of such a call, as it is written. -/
def shownEvent (library : LogLibrary) (bound context : Event) (time : String) : Event :=
  let masked := maskedEvent method message named library bound context time
  if method = .exception then masked.withReport handled? else masked

/-- What counts under a name before the mask: time, severity and message before named values, these
before bound ones, and these before context variables. -/
def sourceOf (bound context : Event) (time name : String) : Option EventValue :=
  if "timestamp" == name then some (.ofText time)
  else if "level" == name then some (.ofText method.level.label)
  else if "event" == name then some (.ofText message)
  else (named.get? name).or ((bound.get? name).or (context.get? name))

/-- A source of named values that says nothing of an exception. -/
structure IsQuiet (fields : Event) : Prop where
  distinct : Fields.Distinct fields
  noException : fields.get? "exc_info" = none

theorem get?_completed (name : String) :
    (completed method named).get? name =
      (named.get? name).or
        (if method = .exception ∧ "exc_info" = name then some (.value (.bool true)) else none) := by
  cases method with
  | exception =>
    rw [completed, Fields.get?_putNew]
    simp [Fields.get?]
  | _ => simp [completed]

theorem distinct_completed
    {named : Event}
    (distinct : Fields.Distinct named) :
    Fields.Distinct (completed method named) := by
  cases method with
  | exception => exact distinct.putNew _ _
  | _ => exact distinct

section Distinct

variable {library : LogLibrary} {bound : Event} (context : Event)
variable (documented : library.Documented)
include documented

theorem distinct_maskedEvent (distinctBound : Fields.Distinct bound) (time : String) :
    Fields.Distinct (maskedEvent method message named library bound context time) := by
  have merged := (distinctBound.putAll (completed method named)).put "event" (.ofText message)
  have gathered := merged.foldl_putNew (context.visited library.order)
  rw [maskedEvent, documented.gathered_eq]
  exact Event.distinct_redacted ((gathered.put _ _).put _ _)

theorem distinct_shownEvent (distinctBound : Fields.Distinct bound) (time : String) :
    Fields.Distinct (shownEvent method message named handled? library bound context time) := by
  have masked := distinct_maskedEvent method message named context documented distinctBound time
  rw [shownEvent]
  split
  · exact Event.distinct_withReport masked handled?
  · exact masked

end Distinct

section Shown

variable {library : LogLibrary} {named bound context : Event}
variable (documented : library.Documented)
variable (quietNamed : IsQuiet named) (quietBound : IsQuiet bound) (quietContext : IsQuiet context)
include documented quietNamed

/-- The field of each name behind the mask, which comes over what counts under the name. -/
theorem get?_maskedEvent (time name : String) :
    (maskedEvent method message named library bound context time).get? name =
      (sourceOf method message (completed method named) bound context time name).map fun value =>
        Event.shownValue (name, value) := by
  rw [maskedEvent, documented.gathered_eq, Event.get?_redacted, Event.get?_stamped,
    Event.get?_withContext, Event.get?_visited context documented.visitsOnce, Fields.get?_put,
    Fields.get?_putAll _ _ (distinct_completed method quietNamed.distinct), sourceOf]
  by_cases isMessage : "event" = name <;> simp [isMessage, Option.or_assoc]

include quietBound quietContext

/-- Only the method can ask for the exception at hand, and the mask leaves the request alone. -/
theorem get?_maskedEvent_request (time : String) :
    (maskedEvent method message named library bound context time).get? "exc_info" =
      if method = .exception then some (.value (.bool true)) else none := by
  have isOpen : Redaction.isSensitive "exc_info" = false := by decide
  rw [get?_maskedEvent method message documented quietNamed, sourceOf, get?_completed,
    quietNamed.noException, quietBound.noException, quietContext.noException]
  by_cases asks : method = .exception <;> simp [asks, Event.shownValue, isOpen]

/-- The report of the exception at hand takes the place of the request for it, if there is one. -/
theorem dressed_eq_shownEvent (time : String) :
    Event.dressed library
        ((bound.putAll (completed method named)).put "event" (.ofText message)) context method.level
        time handled? =
      .ok (shownEvent method message named handled? library bound context time) := by
  have request := get?_maskedEvent_request method message documented quietNamed quietBound
    quietContext time
  rw [Event.dressed, shownEvent]
  change library.reportException handled?
    (maskedEvent method message named library bound context time) = _
  split
  next asks => exact documented.asked handled? _ (by rw [request, if_pos asks])
  next silent =>
    refine documented.unasked handled? _ ?_
    rw [Fields.has_eq_isSome, request, if_neg silent, Option.isSome_none]

/-- The field of each name in the shown event. The report of the exception counts before all
else. -/
theorem get?_shownEvent (time name : String) :
    (shownEvent method message named handled? library bound context time).get? name =
      (if "exception" == name then (report? method handled?).map .ofText else none).or
        (if "exc_info" == name then none
        else (sourceOf method message named bound context time name).map fun value =>
          Event.shownValue (name, value)) := by
  have request := get?_maskedEvent_request method message documented quietNamed quietBound
    quietContext time
  have masked : (if "exc_info" == name then none
      else (maskedEvent method message named library bound context time).get? name) =
      if "exc_info" == name then none
      else (sourceOf method message named bound context time name).map fun value =>
        Event.shownValue (name, value) := by
    split
    next => rfl
    next other =>
      have different : ¬ "exc_info" = name := by simpa using other
      rw [get?_maskedEvent method message documented quietNamed, sourceOf, sourceOf, get?_completed]
      simp [different]
  rw [← masked, shownEvent, report?]
  split
  next => exact Event.get?_withReport _ handled? name
  next silent =>
    by_cases isRequest : "exc_info" = name
    · subst isRequest
      simp [request, silent]
    · simp [isRequest]

end Shown

end Call

end Attachments
