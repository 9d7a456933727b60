import Attachments.Datum.Json
import Attachments.Fields
import Attachments.Problem.Basic
import Attachments.Text.CodePoint

/-!
Contract: events, the records that are logged.

Owns:
- the values an event can hold: plain ones, torn texts and problems, and their written forms;
- events as records of such values, and events as lines of JSON.

Does not own: how an event comes about, and how else it is shown.
-/

namespace Attachments

/-- A value in an event. -/
inductive EventValue where
  | value (datum : Datum)
  | torn (text : Text.Points)
  | raised (problem : Problem)
  deriving Inhabited

namespace EventValue

def ofText (text : String) : EventValue :=
  .value (.text text)

def ofPoints (text : Text.Points) : EventValue :=
  match Text.CodePoint.whole? text with
  | some string => ofText string
  | none => .torn text

def points? : EventValue → Option Text.Points
  | .value (.text text) => some (Text.points text)
  | .torn text => some text
  | _ => none

/-- The literal form. A problem has its quoted form. -/
def literal : EventValue → Except Fault String
  | .value datum => datum.literalText
  | .torn text => .ok (Text.quotePoints text)
  | .raised problem => problem.quotedText

/-- The plain form. A problem has its text. -/
def plain : EventValue → Except Fault Text.Points
  | .value datum => datum.plainText.map Text.points
  | .torn text => .ok text
  | .raised problem => problem.text.map Text.points

/-- The JSON text. A problem is written as a string. -/
def json : EventValue → String
  | .value datum => datum.json
  | .torn text => Json.quotePoints text
  | .raised problem => Json.quote problem.quoted

/-- What keeps the value from being written as JSON. -/
def jsonFault? : EventValue → Option Fault
  | .value datum => datum.jsonFault?
  | .torn _ => none
  | .raised problem => (Datum.firstObstacle? problem.quotedWrites).map .unwritable

/-- The value as a text to which other text is joined, if it is one. Null stands for no text. -/
def attachedText? : EventValue → Except Fault (Option Text.Points)
  | .value .null => .ok none
  | .value (.text text) => .ok (some (Text.points text))
  | .torn text => .ok (some text)
  | .value other => .error (.notAppendable other.kind.name)
  | .raised problem => .error (.notAppendable problem.problemClass.name)

end EventValue

/-- An event: named values in the order in which they were added. -/
abbrev Event :=
  Fields String EventValue

/-- An event as one line of JSON, its fields in their order. A field that cannot be written keeps
the whole event from being written. -/
def Event.jsonLine (event : Event) : Except Fault Text.Points :=
  match event.findSome? fun field => field.2.jsonFault? with
  | some fault => .error fault
  | none =>
    .ok (Text.points (Json.object (event.map fun field => (field.1, field.2.json)) ++ "\n"))

end Attachments
