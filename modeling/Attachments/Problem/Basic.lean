import Attachments.Problem.Rejection

/-!
Contract: problems, which carry a message and a context.

Owns:
- problems in general, refusals among them;
- the text of a problem, its message followed by its context;
- what a problem hands on where it is raised;
- its quoted form, and the values that can be asked of it by name.

Does not own: how a problem is called for by class and arguments.
-/

namespace Attachments

/-- A problem: a refusal, or anything else with a message and a context. -/
inductive Problem where
  | general (message context : Datum)
  | rejected (rejection : Rejection)
  deriving Inhabited

namespace Problem

def problemClass : Problem → ProblemClass
  | .general .. => .general
  | .rejected rejection => rejection.problemClass

def message : Problem → Datum
  | .general message _ => message
  | .rejected rejection => .text rejection.message

def context : Problem → Datum
  | .general _ context => context
  | .rejected rejection => .dict (rejection.context.map fun field => (.text field.1, field.2))

/-- What a problem hands on where it is raised: the message alone. -/
def arguments (problem : Problem) : List Datum :=
  [problem.message]

/-- One field of a context in a text. -/
def contextItem (entry : Datum × Datum) : String :=
  entry.1.plain ++ "=" ++ entry.2.plain

/-- The values of a context as they are written one after the other, each behind its name. -/
def contextWrites (entries : List (Datum × Datum)) : List Datum :=
  entries.flatMap fun entry => [entry.1, entry.2]

/-- The text of a problem: the message, and in parentheses the context if it holds anything. A
context that is no dictionary has no fields to show, and a message that is no text cannot stand
alone. The context is written before a message that goes with it. -/
def text (problem : Problem) : Except Fault String :=
  if problem.context.truthy then
    match problem.context with
    | .dict entries =>
      Datum.written (contextWrites entries ++ [problem.message])
        (problem.message.plain ++ " (" ++ ", ".intercalate (entries.map contextItem) ++ ")")
    | other => .error (.noOperation other.kind "items")
  else
    match problem.message with
    | .text message => .ok message
    | other => .error (.nonTextMessage other.kind)

/-- The quoted form. -/
def quoted (problem : Problem) : String :=
  s!"{problem.problemClass.name}({problem.message.literal}, context={problem.context.literal})"

/-- The values that the quoted form writes, one after the other. -/
def quotedWrites (problem : Problem) : List Datum :=
  [problem.message, problem.context]

/-- The quoted form, if it can be written. -/
def quotedText (problem : Problem) : Except Fault String :=
  Datum.written problem.quotedWrites problem.quoted

/-- The report of a problem that came up in the course of work: its class with the place where the
class is known, and its text unless that is empty. A text that cannot be made is excused. -/
def report (problem : Problem) : String :=
  let text := match problem.text with
    | .ok text => text
    | .error _ => "<exception str() failed>"
  if text.isEmpty then problem.problemClass.qualifiedName
  else problem.problemClass.qualifiedName ++ ": " ++ text

/-- The values a problem can be asked for by name. -/
def attributes : Problem → Fields String Datum
  | .general .. => []
  | .rejected rejection =>
    [("field", rejection.field), ("reason", rejection.reason)]
      ++ (rejection.component?.toList.map fun component => ("component", component))
      ++ match rejection with
        | .invalidComponent _ value _ => [("value", value)]
        | .malformed serialized hint =>
          [("serialized", serialized), ("expected_shapes", hint.given)]
        | _ => []

end Problem

end Attachments
