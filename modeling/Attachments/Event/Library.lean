import Attachments.Event.Basic
import Attachments.Event.Configuration

/-!
Contract: what the program takes from the library of logging.

Owns:
- the steps that an event goes through, the writers of events, and when loggers take on a
  configuration, as operations of the library;
- what the library documents about them, which is all that may be relied on.

Does not own: the order of the steps, and what stands between them.
-/

namespace Attachments

/-- The library of logging. `order` is the order in which context variables of given names are
visited. `bindsTo` is the configuration of a logger that is bound under the configuration of the
moment, and `keepsFirst` says whether the first use of a logger under a configuration is final. -/
structure LogLibrary where
  order : List String → List String
  mergeContext : (context event : Event) → Event
  addLevel : Level → Event → Event
  addTime : (time : String) → Event → Event
  reportException : (handled? : Option String) → Event → Except Fault Event
  writeJson : Event → Except Fault Text.Points
  writeConsole : Event → Except Fault Text.Points
  bindsTo : Configuration → Configuration
  keepsFirst : Configuration → Bool

namespace Event

/-- The context variables in the order in which those of their names are visited. -/
def visited (order : List String → List String) (context : Event) : Event :=
  (order (context.map Prod.fst)).filterMap fun name =>
    (context.get? name).map fun value => (name, value)

/-- Adds the context variables whose names the event does not have. -/
def withContext (event context : Event) : Event :=
  context.foldl (fun merged field => merged.putNew field.1 field.2) event

/-- Writes severity and time, also over values of these names. -/
def stamped (event : Event) (level : Level) (time : String) : Event :=
  (event.put "level" (.ofText level.label)).put "timestamp" (.ofText time)

/-- Puts the report of the exception that is being handled, if there is one, in the place of the
request for it. -/
def withReport (event : Event) (handled? : Option String) : Event :=
  let rest := event.erase "exc_info"
  match handled? with
  | some report => rest.put "exception" (.ofText report)
  | none => rest

end Event

namespace LogLibrary

/-- What the library documents. Context variables do not take the place of anything, and are
visited once each, in an order that depends on their names alone. Severity and time are set. An
event without a request for a report is left alone, and one that asks for the exception that is
being handled has its report in place of the request. Events are written as JSON by the rules of
JSON, and those of plain values that can be written are shown on the console, where a stack and an
exception have rules of their own. A logger is bound to the configuration of the moment, and its
first use is final where the configuration asks for that. -/
structure Documented (library : LogLibrary) : Prop where
  visitsOnce : ∀ names, (library.order names).Perm names
  merges : ∀ context event,
    library.mergeContext context event = event.withContext (context.visited library.order)
  levels : ∀ level event, library.addLevel level event = event.put "level" (.ofText level.label)
  times : ∀ time event, library.addTime time event = event.put "timestamp" (.ofText time)
  unasked : ∀ handled? event,
    event.has "exc_info" = false → library.reportException handled? event = .ok event
  asked : ∀ handled? event, event.get? "exc_info" = some (.value (.bool true)) →
    library.reportException handled? event = .ok (event.withReport handled?)
  dumps : ∀ event, library.writeJson event = event.jsonLine
  shows : ∀ event : Event,
    (∀ field ∈ event, field.1 ≠ "stack" ∧ field.1 ≠ "exception" ∧
      ∃ datum, field.2 = .value datum ∧ datum.obstacle? = none) →
    ∃ text, library.writeConsole event = .ok text
  binds : ∀ configuration, library.bindsTo configuration = configuration
  keeps : ∀ configuration, library.keepsFirst configuration = configuration.keepsFirstUse

end LogLibrary

end Attachments
