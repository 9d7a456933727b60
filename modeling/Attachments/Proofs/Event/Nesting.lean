import Attachments.Proofs.Event.Secrecy

/-!
Contract: sensitive names inside values.

Owns:
- values in which all that stands under sensitive names of dictionaries is veiled, at any depth;
- that a call deals with veiled values as it does with the values themselves, up to the mask;
- that the mask hides what a veil hides below sensitive names of the record alone.

Does not own: what a format shows of a value.
-/

namespace Attachments

open Redaction (IsOpen IsOpenKey)

/-! ## The veil -/

/-- Whether values under such a key are secrets. -/
def Datum.isSecretKey : Datum → Bool
  | .text name => Redaction.isSensitive name
  | _ => false

mutual

/-- The value with the marker over all that stands under sensitive names of the dictionaries in
it. -/
def Datum.veiled : Datum → Datum
  | .list items => .list (Datum.veiledItems items)
  | .tuple items => .tuple (Datum.veiledItems items)
  | .dict entries => .dict (Datum.veiledEntries entries)
  | plain => plain

def Datum.veiledItems : List Datum → List Datum
  | [] => []
  | item :: rest => item.veiled :: Datum.veiledItems rest

def Datum.veiledEntries : List (Datum × Datum) → List (Datum × Datum)
  | [] => []
  | (key, value) :: rest =>
    (key, if key.isSecretKey then .text Redaction.marker else value.veiled) ::
      Datum.veiledEntries rest

end

/-- The value of an event, veiled. -/
def EventValue.veiled : EventValue → EventValue
  | .value datum => .value datum.veiled
  | other => other

/-- Nothing becomes null behind the veil. -/
theorem EventValue.veiled_eq_null_iff (value : EventValue) :
    value.veiled = .value .null ↔ value = .value .null := by
  rcases value with datum | _ | _
  · cases datum <;> simp [veiled, Datum.veiled]
  · rfl
  · rfl

/-- The event with every value veiled. Its own names do not count. -/
def Event.veiled (event : Event) : Event :=
  event.mapValues EventValue.veiled

/-- The call with its message and its named values veiled. -/
def Call.veiled (call : Call) : Call :=
  { call with
    message := call.message.veiled
    named := call.named.mapValues EventValue.veiled }

/-! ## Up to the mask -/

theorem Datum.namedArguments_mapValues {Value Other : Type}
    (change : Value → Other)
    (named : Fields Datum Value) :
    namedArguments (named.mapValues change) =
      (namedArguments named).map (Fields.mapValues change) := by
  induction named with
  | nil => rfl
  | cons field rest inductionHypothesis =>
    obtain ⟨key, value⟩ := field
    cases key with
    | text name =>
      rw [Fields.mapValues, List.map_cons, ← Fields.mapValues, namedArguments, namedArguments,
        inductionHypothesis]
      cases namedArguments rest <;> rfl
    | _ => rfl

namespace Call

variable (call : Call)

theorem taken_veiled (shown : Bool) :
    call.veiled.taken shown = (call.taken shown).map Event.veiled := by
  have names : Datum.namedArguments call.veiled.named =
      (Datum.namedArguments call.named).map Event.veiled :=
    Datum.namedArguments_mapValues EventValue.veiled call.named
  rw [taken, taken, names]
  cases Datum.namedArguments call.named with
  | error fault => rfl
  | ok fields =>
    have sameName := Fields.find?_mapValues EventValue.veiled fields
      fun name => name == "self" || name == "event"
    simp only [Except.map, bind, Except.bind, Event.veiled, sameName]
    cases fields.find? fun field => field.1 == "self" || field.1 == "event" <;> rfl

/-- Only texts are filled, and a veil leaves them as they are. -/
theorem logged_veiled : call.veiled.logged = call.logged.map EventValue.veiled := by
  have plain (text : Text.Points) : (EventValue.ofPoints text).veiled = .ofPoints text := by
    unfold EventValue.ofPoints
    cases Text.CodePoint.whole? text <;> rfl
  have filledVeiled : Template.fill call.veiled.message call.veiled.arguments =
      Template.fill call.message call.arguments := by
    unfold veiled
    cases call.message <;> rfl
  have sameArguments : call.veiled.arguments = call.arguments := rfl
  rw [logged, logged, filledVeiled, sameArguments]
  split
  · rfl
  · cases Template.fill call.message call.arguments with
    | error fault => rfl
    | ok text => exact congrArg Except.ok (plain text).symm

theorem completed_veiled (method : Method) (fields : Event) :
    completed method fields.veiled = (completed method fields).veiled := by
  cases method with
  | exception =>
    exact Fields.putNew_mapValues EventValue.veiled fields "exc_info" (.value (.bool true))
  | _ => rfl

theorem handedOn_veiled (fields : Event) :
    handedOn fields.veiled = (handedOn fields).map Event.veiled := by
  rw [handedOn, handedOn, Event.veiled, Fields.has_mapValues]
  split <;> rfl

/-- The message takes its place among merged values, null apart. -/
def withMessage (merged : Event) : EventValue → Event
  | .value .null => merged
  | message => merged.put "event" message

theorem event_eq (bound : Event) :
    call.event bound = (do
      let fields ← call.taken true
      let message ← call.logged
      let fields ← handedOn (completed call.method fields)
      .ok (withMessage (bound.putAll fields) message)) :=
  rfl

theorem withMessage_of_ne
    (merged : Event)
    {message : EventValue}
    (isMessage : message ≠ .value .null) :
    withMessage merged message = merged.put "event" message := by
  unfold withMessage
  split
  · contradiction
  · rfl

theorem withMessage_veiled (merged : Event) (message : EventValue) :
    withMessage merged.veiled message.veiled = (withMessage merged message).veiled := by
  by_cases noMessage : message = .value .null
  · rw [noMessage]
    rfl
  · have veiledToo : message.veiled ≠ .value .null := by
      rwa [ne_eq, EventValue.veiled_eq_null_iff]
    rw [withMessage_of_ne _ noMessage, withMessage_of_ne _ veiledToo]
    exact Fields.put_mapValues EventValue.veiled merged "event" message

/-- A call of veiled values asks for the veiled event. -/
theorem event_veiled (bound : Event) :
    call.veiled.event bound.veiled = (call.event bound).map Event.veiled := by
  have sameMethod : call.veiled.method = call.method := rfl
  rw [event_eq, event_eq, taken_veiled, logged_veiled, sameMethod]
  cases call.taken true with
  | error fault => rfl
  | ok fields =>
    cases call.logged with
    | error fault => rfl
    | ok message =>
      simp only [Except.map, bind, Except.bind, completed_veiled, handedOn_veiled]
      cases handedOn (completed call.method fields) with
      | error fault => rfl
      | ok handed =>
        have merged := Fields.putAll_mapValues EventValue.veiled bound handed
        simp only [Event.veiled, merged]
        exact congrArg Except.ok (withMessage_veiled _ message)

end Call

/-! ## Behind the call -/

namespace Event

variable (event context : Event)

theorem withContext_veiled :
    withContext event.veiled context.veiled = (withContext event context).veiled := by
  induction context generalizing event with
  | nil => rfl
  | cons field rest inductionHypothesis =>
    have step (merged : Event) :
        withContext merged (field :: rest) =
          withContext (merged.putNew field.1 field.2) rest := rfl
    have written : Fields.putNew event.veiled field.1 field.2.veiled =
        veiled (event.putNew field.1 field.2) :=
      Fields.putNew_mapValues EventValue.veiled event field.1 field.2
    rw [step, ← inductionHypothesis, ← written]
    rfl

theorem stamped_veiled (level : Level) (time : String) :
    stamped event.veiled level time = (stamped event level time).veiled := by
  rw [stamped, stamped, veiled, veiled, ← Fields.put_mapValues, ← Fields.put_mapValues]
  rfl

end Event

section Library

variable {library : LogLibrary}

theorem Event.gathered_veiled
    (documented : library.Documented)
    (event context : Event)
    (level : Level)
    (time : String) :
    gathered library event.veiled context.veiled level time =
      (gathered library event context level time).veiled := by
  have visited : Event.visited library.order context.veiled =
      (context.visited library.order).veiled :=
    visited_mapValues library.order context EventValue.veiled
  rw [documented.gathered_eq, documented.gathered_eq, visited, withContext_veiled, stamped_veiled]

/-- The event that a call hands to the mask. -/
def Call.unmaskedEvent
    (library : LogLibrary)
    (call : Call)
    (bound context : Event)
    (time : String) :
    Except Fault Event :=
  (call.event bound).map fun event => event.gathered library context call.method.level time

theorem Call.unmaskedEvent_veiled
    (documented : library.Documented)
    (call : Call)
    (bound context : Event)
    (time : String) :
    call.veiled.unmaskedEvent library bound.veiled context.veiled time =
      (call.unmaskedEvent library bound context time).map Event.veiled := by
  have sameMethod : call.veiled.method = call.method := rfl
  rw [unmaskedEvent, unmaskedEvent, event_veiled, sameMethod]
  cases call.event bound with
  | error fault => rfl
  | ok event =>
    exact congrArg Except.ok (Event.gathered_veiled documented event context call.method.level time)

end Library

/-! ## The mask -/

/-- Of two events with the same names the mask hides all differences exactly if the events agree on
the open names. -/
theorem Event.redacted_eq_iff_agree
    {event other : Event}
    (names : event.map Prod.fst = other.map Prod.fst) :
    event.redacted = other.redacted ↔ Fields.AgreeOn IsOpen event other := by
  refine ⟨fun same => ?_, redacted_eq_of_agree⟩
  rw [redacted_eq_map, redacted_eq_map] at same
  induction event generalizing other with
  | nil =>
    obtain rfl := List.map_eq_nil_iff.mp names.symm
    exact .nil
  | cons field rest inductionHypothesis =>
    match other with
    | [] => contradiction
    | otherField :: otherRest =>
      obtain ⟨name, value⟩ := field
      obtain ⟨otherName, otherValue⟩ := otherField
      obtain ⟨rfl, restNames⟩ := List.cons.inj names
      obtain ⟨sameField, sameRest⟩ := List.cons.inj same
      refine .cons (fun isOpen => ?_) (inductionHypothesis restNames sameRest)
      have notSensitive : Redaction.isSensitive name = false := isOpen
      simpa [shownValue, notSensitive] using sameField

theorem Event.names_eq_of_veiled_eq {event other : Event} (same : event.veiled = other.veiled) :
    event.map Prod.fst = other.map Prod.fst := by
  have names := congrArg (List.map Prod.fst) same
  rwa [veiled, veiled, Fields.names_mapValues, Fields.names_mapValues] at names

/-! ## What comes of a call -/

section Calls

variable {library : LogLibrary} {profile : Profile}

theorem Call.dressedEvent_eq_bind
    (call : Call)
    (bound context : Event)
    (time : String) :
    call.dressedEvent library bound context time =
      call.unmaskedEvent library bound context time >>= fun event =>
        library.reportException call.handled? event.redacted := by
  rw [dressedEvent, unmaskedEvent]
  cases call.event bound <;> rfl

variable (documented : library.Documented)
include documented

/-- Calls with sources that agree on the open names hand the mask events that do. -/
theorem Call.unmaskedEvent_alike
    (call : Call)
    (time : String)
    {bound otherBound context otherContext : Event}
    {otherNamed : Fields Datum EventValue}
    (contexts : Fields.AgreeOn IsOpen context otherContext)
    (bounds : Fields.AgreeOn IsOpen bound otherBound)
    (named : Fields.AgreeOn IsOpenKey call.named otherNamed) :
    EndAlike (Fields.AgreeOn IsOpen)
      (call.unmaskedEvent library bound context time)
      ({ call with named := otherNamed }.unmaskedEvent library otherBound otherContext time) :=
  (call.event_alike bounds named).map fun events =>
    Event.gathered_agree documented events contexts call.method.level time

variable {call other : Call} {bound otherBound context otherContext : Event}

omit documented in
theorem Call.taken_eq_of_veiled_eq (calls : call.veiled = other.veiled) (shown : Bool) :
    (call.taken shown).map Event.veiled = (other.taken shown).map Event.veiled := by
  rw [← taken_veiled, calls, taken_veiled]

theorem Call.unmaskedEvent_eq_of_veiled_eq
    (calls : call.veiled = other.veiled)
    (bounds : bound.veiled = otherBound.veiled)
    (contexts : context.veiled = otherContext.veiled)
    (time : String) :
    (call.unmaskedEvent library bound context time).map Event.veiled =
      (other.unmaskedEvent library otherBound otherContext time).map Event.veiled := by
  rw [← unmaskedEvent_veiled documented, calls, bounds, contexts, unmaskedEvent_veiled documented]

omit documented in
/-- Events that agree on the open names end in the same text. Calls that are not shown come to
nothing, whatever their events. -/
theorem Profile.emit_eq_of_veiled_eq
    (profile : Profile)
    (time : String)
    (calls : call.veiled = other.veiled)
    (agree : profile.shows call.method.level = true →
      EndAlike (Fields.AgreeOn IsOpen)
        (call.unmaskedEvent library bound context time)
        (other.unmaskedEvent library otherBound otherContext time)) :
    profile.emit library context time bound call =
      profile.emit library otherContext time otherBound other := by
  have sameMethod : call.method = other.method := (congrArg Call.method calls :)
  have sameHandled : call.handled? = other.handled? := (congrArg Call.handled? calls :)
  have sameTaken : (call.taken false).map (fun _ => Emission.silent) =
      (other.taken false).map fun _ => .silent := by
    have alike := EndAlike.of_map_eq (Call.taken_eq_of_veiled_eq calls false)
    exact (alike.map fun _ => rfl).eq
  refine profile.emit_congr time sameMethod sameTaken fun shown => ?_
  rw [Call.dressedEvent_eq_bind, Call.dressedEvent_eq_bind, ← sameHandled]
  refine ((agree shown).bind fun {event otherEvent} agreeing => ?_).eq
  rw [Event.redacted_eq_of_agree agreeing]
  exact EndAlike.refl _

/-- What the mask does to secrets inside values. Take two calls that differ, with the values bound
before and the context variables, in values under sensitive names of dictionaries at most. They end
in the same fault, or hand the mask two events that differ in such values at most, and what leaves
the mask is the same exactly if all differences lie below sensitive names of the events themselves.
Then both calls print the same, or both are silent, under every configuration that was made. -/
theorem Logger.nested_secrets
    (logger : Logger)
    (current : Configuration)
    (time : String)
    (calls : call.veiled = other.veiled)
    (bounds : Event.veiled logger.bound = otherBound.veiled)
    (contexts : context.veiled = otherContext.veiled) :
    EndAlike
        (fun event otherEvent : Event => event.veiled = otherEvent.veiled ∧
          (event.redacted = otherEvent.redacted ↔ Fields.AgreeOn IsOpen event otherEvent))
        (call.unmaskedEvent library logger.bound context time)
        (other.unmaskedEvent library otherBound otherContext time) ∧
      ∀ profile, logger.followed library current = .made profile →
        (profile.shows call.method.level = true →
          EndAlike (Fields.AgreeOn IsOpen)
            (call.unmaskedEvent library logger.bound context time)
            (other.unmaskedEvent library otherBound otherContext time)) →
        logger.emit library current context time call =
          { logger with bound := otherBound }.emit library current otherContext time other := by
  constructor
  · have alike := EndAlike.of_map_eq
      (Call.unmaskedEvent_eq_of_veiled_eq documented calls bounds contexts time)
    exact alike.imp fun veiled =>
      ⟨veiled, Event.redacted_eq_iff_agree (Event.names_eq_of_veiled_eq veiled)⟩
  · intro profile follows agree
    have otherFollows : { logger with bound := otherBound }.followed library current =
        .made profile := follows
    rw [emit_of_follows follows, emit_of_follows otherFollows]
    exact profile.emit_eq_of_veiled_eq time calls agree

end Calls

/-- A call with the key of a service inside its credentials. -/
def Call.withKey (key : String) : Call where
  method := .info
  message := .text "login"
  arguments := []
  named := [
    (.text "user", .value (.dict [(.text "name", .text "u")])),
    (.text "credential", .value (.list [.dict [(.text "api_key", .text key)]]))]
  handled? := none

theorem Logger.nested_secrets_credential :
    let emitted (key : String) : Except Fault Emission :=
      emit .standard ⟨[], none⟩ (.made ⟨20, .json⟩) [] "2025-01-01T00:00:00Z" (Call.withKey key)
    LogLibrary.standard.Documented ∧
      (Call.withKey "k-1").veiled = (Call.withKey "k-2").veiled ∧
      emitted "k-1" = emitted "k-2" := by
  intro emitted
  have calls : (Call.withKey "k-1").veiled = (Call.withKey "k-2").veiled := by rfl
  have named : Fields.AgreeOn IsOpenKey (Call.withKey "k-1").named (Call.withKey "k-2").named := by
    refine .cons (fun _ => rfl) (.cons (fun isOpen => ?_) .nil)
    exact absurd ((Redaction.isOpenKey_text _).mp isOpen) (by decide)
  have nothing : Event.veiled [] = Event.veiled [] := rfl
  have secrets := nested_secrets LogLibrary.standard_documented ⟨[], none⟩ (.made ⟨20, .json⟩)
    "2025-01-01T00:00:00Z" calls nothing nothing
  refine ⟨LogLibrary.standard_documented, calls, secrets.2 ⟨20, .json⟩ rfl fun _ => ?_⟩
  exact (Call.withKey "k-1").unmaskedEvent_alike LogLibrary.standard_documented
    "2025-01-01T00:00:00Z" .nil .nil named

/-- A call with a secret under an open name. -/
def Call.withHeaders (secret : String) : Call where
  method := .info
  message := .text "request"
  arguments := []
  named := [(.text "headers", .value (.dict [(.text "authorization", .text secret)]))]
  handled? := none

/-- What is shown of it. -/
def Event.withHeaders (secret : String) : Event :=
  [("headers", .value (.dict [(.text "authorization", .text secret)])),
    ("event", .ofText "request"),
    ("level", .ofText "info"),
    ("timestamp", .ofText "2025-01-01T00:00:00Z")]

/-- A secret inside a value under an open name gets past the mask, and into the text. -/
theorem Logger.nested_secret_shown :
    let unmasked (secret : String) : Except Fault Event :=
      (Call.withHeaders secret).unmaskedEvent .standard [] [] "2025-01-01T00:00:00Z"
    let emitted (secret : String) : Except Fault Emission :=
      emit .standard ⟨[], none⟩ (.made ⟨20, .json⟩) [] "2025-01-01T00:00:00Z"
        (Call.withHeaders secret)
    (Call.withHeaders "a").veiled = (Call.withHeaders "b").veiled ∧
      (unmasked "a").map Event.redacted ≠ (unmasked "b").map Event.redacted ∧
      emitted "a" ≠ emitted "b" := by
  intro unmasked emitted
  have handedOver (secret : String) : unmasked secret = .ok (Event.withHeaders secret) := by rfl
  have stays (secret : String) :
      Event.redacted (Event.withHeaders secret) = Event.withHeaders secret := by rfl
  have noRequest (secret : String) : (Event.withHeaders secret).has "exc_info" = false := by rfl
  have printed (secret : String) :
      emitted secret = (Event.jsonLine (Event.withHeaders secret)).map .printed := by
    have follows : Logger.followed .standard ⟨[], none⟩ (.made ⟨20, .json⟩) =
        .made ⟨20, .json⟩ := rfl
    have shown : Profile.shows ⟨20, .json⟩ (Call.withHeaders secret).method.level = true := rfl
    have written : Profile.write .standard ⟨20, .json⟩ (Event.withHeaders secret) =
        Event.jsonLine (Event.withHeaders secret) := rfl
    simp only [emitted]
    rw [emit_of_follows follows, Profile.emit_eq_dressedEvent, if_pos shown,
      Call.dressedEvent_eq_bind]
    change (unmasked secret >>= _) >>= _ = _
    rw [handedOver]
    simp only [bind, Except.bind, stays,
      LogLibrary.standard_documented.unasked _ _ (noRequest secret), written]
  have different : Event.jsonLine (Event.withHeaders "a") ≠
      Event.jsonLine (Event.withHeaders "b") := by
    decide +kernel
  refine ⟨rfl, ?_, ?_⟩
  · rw [handedOver, handedOver, Except.map, Except.map, stays, stays]
    intro same
    exact different (congrArg Event.jsonLine (Except.ok.inj same))
  · rw [printed, printed]
    intro same
    have injective : ∀ left right : Except Fault Text.Points,
        left.map Emission.printed = right.map Emission.printed → left = right := by
      rintro (_ | _) (_ | _) alike <;> simp_all [Except.map]
    exact different (injective _ _ same)

end Attachments
