import Attachments.Event.Logger
import Attachments.Proofs.Event.Library
import Attachments.Proofs.Event.Redaction

/-!
Contract: two runs of a call that differ in sensitive values alone.

Owns:
- that both runs end alike at every step up to the mask, in the same fault or in events which agree
  on the open names;
- that they show the same, whatever stands under sensitive names.

Does not own: sensitive names inside values, and loggers that follow no configuration that was made,
which mask nothing.
-/

namespace Attachments

/-! ## Outcomes side by side -/

/-- Two computations end alike: in the same fault, or in related results. -/
inductive EndAlike {Left Right : Type} (related : Left → Right → Prop) :
    Except Fault Left → Except Fault Right → Prop where
  | fault (fault : Fault) : EndAlike related (.error fault) (.error fault)
  | result {left : Left} {right : Right} (alike : related left right) :
      EndAlike related (.ok left) (.ok right)

namespace EndAlike

variable {Left Right Next Other : Type} {related : Left → Right → Prop}

/-- Chains end alike if their first parts do and related results are continued alike. -/
theorem bind
    {left : Except Fault Left}
    {right : Except Fault Right}
    (first : EndAlike related left right)
    {reached : Next → Other → Prop}
    {next : Left → Except Fault Next}
    {other : Right → Except Fault Other}
    (continued : ∀ {one two}, related one two → EndAlike reached (next one) (other two)) :
    EndAlike reached (left >>= next) (right >>= other) := by
  cases first with
  | fault fault => exact .fault fault
  | result alike => exact continued alike

theorem map
    {left : Except Fault Left}
    {right : Except Fault Right}
    (first : EndAlike related left right)
    {reached : Next → Other → Prop}
    {change : Left → Next}
    {otherChange : Right → Other}
    (changed : ∀ {one two}, related one two → reached (change one) (otherChange two)) :
    EndAlike reached (left.map change) (right.map otherChange) := by
  cases first with
  | fault fault => exact .fault fault
  | result alike => exact .result (changed alike)

theorem imp
    {left : Except Fault Left}
    {right : Except Fault Right}
    (alike : EndAlike related left right)
    {weaker : Left → Right → Prop}
    (weaken : ∀ {one two}, related one two → weaker one two) :
    EndAlike weaker left right := by
  cases alike with
  | fault fault => exact .fault fault
  | result alike => exact .result (weaken alike)

/-- Computations whose results look the same from outside end alike. -/
theorem of_map_eq
    {change : Left → Next}
    {otherChange : Right → Next}
    {left : Except Fault Left}
    {right : Except Fault Right}
    (same : left.map change = right.map otherChange) :
    EndAlike (fun one two => change one = otherChange two) left right := by
  match left, right with
  | .error cause, .error otherCause =>
    obtain rfl : cause = otherCause := Except.error.inj same
    exact .fault cause
  | .ok _, .ok _ => exact .result (Except.ok.inj same)
  | .error _, .ok _ | .ok _, .error _ => contradiction

theorem refl (outcome : Except Fault Left) : EndAlike Eq outcome outcome := by
  cases outcome with
  | error fault => exact .fault fault
  | ok result => exact .result rfl

theorem eq {left right : Except Fault Left} (alike : EndAlike Eq left right) : left = right := by
  cases alike with
  | fault fault => rfl
  | result same => rw [same]

end EndAlike

open Redaction (IsOpen IsOpenKey)

/-! ## Up to the event of a call -/

theorem Datum.namedArguments_alike
    {named otherNamed : Fields Datum EventValue}
    (agree : Fields.AgreeOn IsOpenKey named otherNamed) :
    EndAlike (Fields.AgreeOn IsOpen) (namedArguments named) (namedArguments otherNamed) := by
  induction agree with
  | nil => exact .result .nil
  | @cons key _ _ _ _ same _ inductionHypothesis =>
    cases key with
    | text name =>
      exact inductionHypothesis.map fun rest =>
        .cons (fun isOpen => same ((Redaction.isOpenKey_text name).mpr isOpen)) rest
    | _ => exact .fault _

namespace Call

variable (call : Call) {otherNamed : Fields Datum EventValue}

theorem taken_alike
    (shown : Bool)
    (named : Fields.AgreeOn IsOpenKey call.named otherNamed) :
    EndAlike (Fields.AgreeOn IsOpen) (call.taken shown)
      ({ call with named := otherNamed }.taken shown) := by
  refine (Datum.namedArguments_alike named).bind fun {fields otherFields} agree => ?_
  have sameName := agree.find?_name fun name => name == "self" || name == "event"
  match fields.find? _, otherFields.find? _, sameName with
  | none, none, _ => exact .result agree
  | some (name, _), some (otherName, _), sameName =>
    obtain rfl : name = otherName := Option.some.inj sameName
    exact .fault _

theorem completed_agree
    (method : Method)
    {fields otherFields : Event}
    (agree : Fields.AgreeOn IsOpen fields otherFields) :
    Fields.AgreeOn IsOpen (completed method fields) (completed method otherFields) := by
  cases method with
  | exception => exact agree.putNew _ fun _ => rfl
  | _ => exact agree

theorem handedOn_alike
    {fields otherFields : Event}
    (agree : Fields.AgreeOn IsOpen fields otherFields) :
    EndAlike (Fields.AgreeOn IsOpen) (handedOn fields) (handedOn otherFields) := by
  unfold handedOn
  rw [agree.has_eq]
  split
  · exact .fault _
  · exact .result agree

theorem event_alike
    {bound otherBound : Event}
    (bounds : Fields.AgreeOn IsOpen bound otherBound)
    (named : Fields.AgreeOn IsOpenKey call.named otherNamed) :
    EndAlike (Fields.AgreeOn IsOpen) (call.event bound)
      ({ call with named := otherNamed }.event otherBound) := by
  refine (call.taken_alike true named).bind fun taken => ?_
  refine (EndAlike.refl call.logged).bind fun {message _} same => ?_
  obtain rfl := same
  refine (handedOn_alike (completed_agree call.method taken)).bind fun handed => ?_
  have merged := bounds.putAll handed
  refine .result ?_
  split
  · exact merged
  · exact merged.put _ fun _ => rfl

end Call

/-! ## From the event to what is shown -/

namespace Event

variable {event other : Event}

theorem withContext_agree
    (events : Fields.AgreeOn IsOpen event other)
    {context otherContext : Event}
    (contexts : Fields.AgreeOn IsOpen context otherContext) :
    Fields.AgreeOn IsOpen (withContext event context) (withContext other otherContext) := by
  unfold withContext
  induction contexts generalizing event other with
  | nil => exact events
  | cons same _ inductionHypothesis => exact inductionHypothesis (events.putNew _ same)

theorem stamped_agree
    (events : Fields.AgreeOn IsOpen event other)
    (level : Level)
    (time : String) :
    Fields.AgreeOn IsOpen (stamped event level time) (stamped other level time) :=
  (events.put _ fun _ => rfl).put _ fun _ => rfl

variable {library : LogLibrary} {context otherContext : Event}

theorem gathered_agree
    (documented : library.Documented)
    (events : Fields.AgreeOn IsOpen event other)
    (contexts : Fields.AgreeOn IsOpen context otherContext)
    (level : Level)
    (time : String) :
    Fields.AgreeOn IsOpen
      (gathered library event context level time)
      (gathered library other otherContext level time) := by
  rw [documented.gathered_eq, documented.gathered_eq]
  exact stamped_agree (withContext_agree events (visited_agree library.order contexts)) level time

/-- All that is added to an event is there before the mask, or is made of what the mask leaves, so
the events that are handed to a format are the same. -/
theorem dressed_eq_of_agree
    (documented : library.Documented)
    (events : Fields.AgreeOn IsOpen event other)
    (contexts : Fields.AgreeOn IsOpen context otherContext)
    (level : Level)
    (time : String)
    (handled? : Option String) :
    dressed library event context level time handled? =
      dressed library other otherContext level time handled? := by
  have masked := redacted_eq_of_agree (gathered_agree documented events contexts level time)
  rw [dressed, dressed, masked]

end Event

/-! ## What comes of a call -/

/-- The event that a call hands to the format of its configuration. -/
def Call.dressedEvent
    (library : LogLibrary)
    (call : Call)
    (bound context : Event)
    (time : String) :
    Except Fault Event :=
  call.event bound >>= fun event =>
    event.dressed library context call.method.level time call.handled?

section Calls

variable {library : LogLibrary} {profile : Profile}

/-- The format sees nothing of a call but the event that it is handed. -/
theorem Profile.emit_eq_dressedEvent
    (profile : Profile)
    (context : Event)
    (time : String)
    (bound : Event)
    (call : Call) :
    profile.emit library context time bound call =
      if profile.shows call.method.level then
        call.dressedEvent library bound context time >>= fun event =>
          (profile.write library event).map .printed
      else (call.taken false).map fun _ => .silent := by
  unfold emit Call.dressedEvent
  split
  case isFalse => rfl
  case isTrue =>
    cases call.event bound with
    | error fault => rfl
    | ok event =>
      cases dressed : event.dressed library context call.method.level time call.handled? with
      | error fault => simp only [bind, Except.bind, dressed]
      | ok shown =>
        simp only [bind, Except.bind, dressed]
        cases profile.write library shown <;> rfl

/-- Calls of one method come to the same if they are refused alike where they are not shown, and
hand the same event to the format where they are. -/
theorem Profile.emit_congr
    (profile : Profile)
    (time : String)
    {call other : Call}
    {context otherContext bound otherBound : Event}
    (sameMethod : call.method = other.method)
    (sameTaken : (call.taken false).map (fun _ => Emission.silent) =
      (other.taken false).map fun _ => .silent)
    (sameDressed : profile.shows call.method.level = true →
      call.dressedEvent library bound context time =
        other.dressedEvent library otherBound otherContext time) :
    profile.emit library context time bound call =
      profile.emit library otherContext time otherBound other := by
  rw [emit_eq_dressedEvent, emit_eq_dressedEvent, ← sameMethod, sameTaken]
  split
  case isTrue shown => rw [sameDressed shown]
  case isFalse => rfl

variable (documented : library.Documented) (call : Call) (time : String)
variable {context otherContext bound otherBound : Event} {otherNamed : Fields Datum EventValue}
include documented

theorem Call.dressedEvent_eq_of_agree
    (contexts : Fields.AgreeOn IsOpen context otherContext)
    (bounds : Fields.AgreeOn IsOpen bound otherBound)
    (named : Fields.AgreeOn IsOpenKey call.named otherNamed) :
    call.dressedEvent library bound context time =
      { call with named := otherNamed }.dressedEvent library otherBound otherContext time := by
  apply EndAlike.eq
  refine (call.event_alike bounds named).bind fun {event other} events => ?_
  rw [Event.dressed_eq_of_agree documented events contexts call.method.level time call.handled?]
  exact EndAlike.refl _

/-- Under a configuration that was made, a call shows nothing of the values under sensitive names.
Where context variables, bound values and named values have the same names in both runs, in the same
order, and agree on the open ones, both runs print the same text, or both are silent, or both end in
the same fault. The event that is handed to the format is the same already, field by field. -/
theorem Logger.emit_and_dressedEvent_eq_of_agree
    {logger : Logger}
    {current : Configuration}
    (follows : logger.followed library current = .made profile)
    (contexts : Fields.AgreeOn IsOpen context otherContext)
    (bounds : Fields.AgreeOn IsOpen logger.bound otherBound)
    (named : Fields.AgreeOn IsOpenKey call.named otherNamed) :
    logger.emit library current context time call =
        { logger with bound := otherBound }.emit library current otherContext time
          { call with named := otherNamed } ∧
      call.dressedEvent library logger.bound context time =
        { call with named := otherNamed }.dressedEvent library otherBound otherContext time := by
  have sameDressed := call.dressedEvent_eq_of_agree documented time contexts bounds named
  have sameTaken : (call.taken false).map (fun _ => Emission.silent) =
      ({ call with named := otherNamed }.taken false).map fun _ => .silent :=
    ((call.taken_alike false named).map fun _ => rfl).eq
  have otherFollows : { logger with bound := otherBound }.followed library current =
      .made profile := follows
  refine ⟨?_, sameDressed⟩
  rw [emit_of_follows follows, emit_of_follows otherFollows]
  exact profile.emit_congr time rfl sameTaken fun _ => sameDressed

end Calls

namespace Logger

/-- Context variables, bound values and named values each hold a secret that the other run does
not, and the logger was got by name under the configuration of the moment. -/
theorem emit_eq_changed_secrets :
    let library := LogLibrary.standard
    let profile : Profile := ⟨20, .json⟩
    let bound (key : EventValue) : Event := [("logger", .ofText "app"), ("API_KEY", key)]
    let named (password : EventValue) : Fields Datum EventValue :=
      [(.text "user", .ofText "u"), (.text "password", password)]
    let emitted (token key password : EventValue) : Except Fault Emission :=
      emit library ⟨bound key, some (.made profile)⟩ (.made profile) [("session_token", token)]
        "2025-01-01T00:00:00Z" ⟨.info, .text "login", [], named password, none⟩
    library.Documented ∧
      (create library (.made profile) (.text "app")).kept? = some (.made profile) ∧
      emitted (.ofText "t-1") (.ofText "k-1") (.ofText "p-1") =
        emitted (.ofText "t-2") (.value .null) (.value (.int 2)) := by
  intro library profile bound named emitted
  have contexts : Fields.AgreeOn IsOpen [("session_token", EventValue.ofText "t-1")]
      [("session_token", EventValue.ofText "t-2")] :=
    .cons (absurd · (by decide)) .nil
  have bounds : Fields.AgreeOn IsOpen (bound (.ofText "k-1")) (bound (.value .null)) :=
    .cons (fun _ => rfl) (.cons (absurd · (by decide)) .nil)
  have names : Fields.AgreeOn IsOpenKey (named (.ofText "p-1")) (named (.value (.int 2))) := by
    refine .cons (fun _ => rfl) (.cons (fun isOpen => ?_) .nil)
    exact absurd ((Redaction.isOpenKey_text _).mp isOpen) (by decide)
  have follows : followed library ⟨bound (.ofText "k-1"), some (.made profile)⟩ (.made profile) =
      .made profile := rfl
  exact ⟨LogLibrary.standard_documented, rfl,
    (emit_and_dressedEvent_eq_of_agree LogLibrary.standard_documented ⟨_, _, _, _, _⟩ _ follows
      contexts bounds names).1⟩

end Logger

end Attachments
