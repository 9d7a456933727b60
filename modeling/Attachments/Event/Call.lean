import Attachments.Datum.Dictionary
import Attachments.Event.Basic
import Attachments.Event.Template.Filling
import Attachments.Level

/-!
Contract: calls that log an event.

Owns:
- the methods of a logger and the severity of each;
- the message of a call, whose places its arguments fill;
- the event a call asks for, before anything is added to it.

Does not own: what is shown of the event.
-/

namespace Attachments

/-- The methods of a logger. -/
inductive Method where
  | debug
  | info
  | msg
  | warning
  | warn
  | error
  | exception
  | critical
  | fatal
  deriving DecidableEq, Repr

namespace Method

def all : List Method :=
  [.debug, .info, .msg, .warning, .warn, .error, .exception, .critical, .fatal]

def name : Method → String
  | .debug => "debug"
  | .info => "info"
  | .msg => "msg"
  | .warning => "warning"
  | .warn => "warn"
  | .error => "error"
  | .exception => "exception"
  | .critical => "critical"
  | .fatal => "fatal"

def ofName? (text : String) : Option Method :=
  all.find? (·.name == text)

/-- A method is found under its name. -/
theorem ofName?_name (method : Method) : ofName? method.name = some method := by
  cases method <;> decide

/-- The severity at which a method logs. -/
def level : Method → Level
  | .debug => .debug
  | .info => .info
  | .msg => .info
  | .warning => .warning
  | .warn => .warning
  | .error => .error
  | .exception => .error
  | .critical => .critical
  | .fatal => .critical

end Method

/-- A call of a logger: the message with its arguments, named values, and the report of the
exception that is being handled at the time of the call, if there is one. -/
structure Call where
  method : Method
  message : Datum
  arguments : List Datum
  named : Fields Datum EventValue
  handled? : Option String

namespace Call

/-- The name under which the function that takes a call reports that it was misused. -/
def receiver (shown : Bool) : Method → String
  | .exception => "exception"
  | _ => if shown then "_make_filtering_bound_logger.<locals>.make_method.<locals>.meth" else "_nop"

/-- The named values of a call that is taken. All names must be texts, and two of them stand for
what every call gives by position: the logger and the message. -/
def taken (shown : Bool) (call : Call) : Except Fault Event := do
  let fields ← Datum.namedArguments call.named
  match fields.find? fun field => field.1 == "self" || field.1 == "event" with
  | some field => .error (.misusedCall (receiver shown call.method) (.repeated field.1))
  | none => .ok fields

/-- The message as it is logged. Without arguments it is taken as it is. -/
def logged (call : Call) : Except Fault EventValue :=
  if call.arguments.isEmpty then .ok (.value call.message)
  else (Template.fill call.message call.arguments).map .ofPoints

/-- Named values with what a method adds to them. The method for exceptions asks for the exception
at hand unless the caller said otherwise. -/
def completed (method : Method) (fields : Event) : Event :=
  match method with
  | .exception => fields.putNew "exc_info" (.value (.bool true))
  | _ => fields

/-- The named values as they are handed on, together with the name of the method, which none of
them may repeat. -/
def handedOn (fields : Event) : Except Fault Event :=
  if fields.has "method_name" then
    .error (.misusedCall "BoundLoggerBase._proxy_to_logger" (.repeated "method_name"))
  else .ok fields

/-- The event of a call: values bound before, then the named values, which take the place of bound
ones, then the message unless it is null. The call is taken, its message filled and its values
handed on, in this order. -/
def event (bound : Event) (call : Call) : Except Fault Event := do
  let fields ← call.taken true
  let message ← call.logged
  let fields ← handedOn (completed call.method fields)
  let merged := bound.putAll fields
  .ok (match message with
    | .value .null => merged
    | message => merged.put "event" message)

end Call

end Attachments
