import Attachments.Event.Library
import Attachments.Event.Redaction

/-!
Contract: what is done to an event before it is written.

Owns:
- the order of the steps: context variables, severity, time, the mask over sensitive values, the
  report of an exception.

Does not own: what the steps of the library do, and how the event is written.
-/

namespace Attachments

namespace Event

/-- Writes the marker over sensitive values. -/
def redacted (event : Event) : Event :=
  (Redaction.mask (fun name => .ok (Redaction.isSensitive name)) (.ofText Redaction.marker) event).2

/-- The event as the mask gets it. -/
def gathered
    (library : LogLibrary)
    (event context : Event)
    (level : Level)
    (time : String) :
    Event :=
  library.addTime time (library.addLevel level (library.mergeContext context event))

/-- The event as it is written. The mask comes before the report of an exception. -/
def dressed
    (library : LogLibrary)
    (event context : Event)
    (level : Level)
    (time : String)
    (handled? : Option String) :
    Except Fault Event :=
  library.reportException handled? (gathered library event context level time).redacted

end Event

end Attachments
