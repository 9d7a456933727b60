import Attachments.Datum.Literal
import Attachments.Fields
import Attachments.Problem.Class
import Attachments.Problem.Hint

/-!
Contract: the refusal of a value.

Owns:
- one constructor for each reason to refuse;
- the field and the reason of a refusal, its message, and the context that repeats both and
  adds what the refusal knows besides;
- what a refusal writes in its message, and what keeps it from being made.

Does not own: problems that are not about a refused value.
-/

namespace Attachments

/-- Why a value was refused. -/
inductive Rejection where
  | invalidField (field reason : Datum) (extra : Fields String Datum)
  | missingInput
  | missingComponent (component : Datum)
  | missingId
  | invalidComponent (component value separator : Datum)
  | malformed (serialized : Datum) (hint : Hint)
  deriving Inhabited

namespace Rejection

/-- The class of a refusal. -/
def problemClass : Rejection → ProblemClass
  | .invalidField .. => .validation
  | .missingInput => .missingInput
  | .missingComponent _ => .missingComponent
  | .missingId => .missingId
  | .invalidComponent .. => .invalidComponent
  | .malformed .. => .malformed

/-- The component that the refusal is about. -/
def component? : Rejection → Option Datum
  | .missingComponent component => some component
  | .missingId => some (.text "id")
  | .invalidComponent component _ _ => some component
  | _ => none

/-- The field that was refused. -/
def field : Rejection → Datum
  | .invalidField field _ _ => field
  | .missingInput => .text "attachment_id"
  | .missingComponent component => component
  | .missingId => .text "id"
  | .invalidComponent component _ _ => component
  | .malformed .. => .text "attachment_id"

/-- What is said of an absent component. -/
def missingReason (component : Datum) : Datum :=
  .text s!"The attachment id {component.plain} component is required"

/-- Why the field was refused. -/
def reason : Rejection → Datum
  | .invalidField _ reason _ => reason
  | .missingInput => .text "A serialized attachment id is required"
  | .missingComponent component => missingReason component
  | .missingId => missingReason (.text "id")
  | .invalidComponent component _ separator =>
    .text (s!"An attachment id {component.plain} component cannot contain the "
      ++ s!"'{separator.plain}' separator")
  | .malformed serialized hint =>
    .text (s!"Unable to deserialise the attachment id {serialized.literal}. "
      ++ s!"The attachment id needs to look like {hint.joined}")

/-- What the refusal knows besides field and reason. -/
def details : Rejection → Fields String Datum
  | .invalidField _ _ extra => extra
  | .invalidComponent _ value _ => [("value", value)]
  | .malformed serialized hint =>
    [("serialized", serialized), ("expected_shapes", .text hint.joined)]
  | _ => []

/-- The message, made of field and reason alone. -/
def message (rejection : Rejection) : String :=
  s!"Validation failed for '{rejection.field.plain}': {rejection.reason.plain}"

/-- The values that are written in reason and message, one after the other. -/
def writes : Rejection → List Datum
  | .invalidField field reason _ => [field, reason]
  | .missingComponent component => [component]
  | .invalidComponent component _ separator => [component, separator]
  | .malformed serialized _ => [serialized]
  | _ => []

/-- The refusal, unless its message cannot be written. -/
def made (rejection : Rejection) : Except Fault Rejection :=
  Datum.written rejection.writes rejection

def context (rejection : Rejection) : Fields String Datum :=
  ("field", rejection.field) :: ("reason", rejection.reason) :: rejection.details

end Rejection

end Attachments
