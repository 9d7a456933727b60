import Attachments.Event.Library
import Attachments.Supplied.Event.Console

/-!
Contract: the library of logging, as it is known.

Owns:
- the report of an exception that is given, or that is being handled;
- the operations of the library, put together.

Does not own: what the program relies on.
-/

namespace Attachments

namespace EventValue

/-- Whether the value counts as true. A problem does. -/
def truthy : EventValue → Bool
  | .value datum => datum.truthy
  | .torn text => !text.isEmpty
  | .raised _ => true

end EventValue

namespace LogLibrary

/-- Removes the request for a report. If it names a problem, the report of the problem is added; any
other request that counts as true asks for the exception that is being handled. -/
def reported (handled? : Option String) (event : Event) : Event :=
  match event.get? "exc_info" with
  | none => event
  | some (.raised problem) => (event.erase "exc_info").put "exception" (.ofText problem.report)
  | some value => event.withReport (handled?.filter fun _ => value.truthy)

/-- The library as it is known. Context variables are visited in the order of their arrival. -/
def standard : LogLibrary where
  order := id
  mergeContext context event := event.withContext (context.visited id)
  addLevel level event := event.put "level" (.ofText level.label)
  addTime time event := event.put "timestamp" (.ofText time)
  reportException handled? event := .ok (reported handled? event)
  writeJson event := event.jsonLine
  writeConsole := Console.line
  bindsTo := id
  keepsFirst := Configuration.keepsFirstUse

end LogLibrary

end Attachments
