import Attachments.Event.Basic
import Attachments.Level

/-!
Contract: events as coloured lines for a terminal.

Owns:
- the columns, their order, widths and colours;
- the spelling of values, and what follows the line.

Does not own: what the event holds.
-/

namespace Attachments

namespace Console

/-- Ends all styles. -/
def reset : String :=
  "\x1b[0m"

/-- Starts bold text. -/
def bold : String :=
  "\x1b[1m"

/-- Starts dim text. -/
def dim : String :=
  "\x1b[2m"

/-- Starts text in a colour of the terminal. -/
def red : String :=
  "\x1b[31m"

@[inherit_doc red]
def green : String :=
  "\x1b[32m"

@[inherit_doc red]
def yellow : String :=
  "\x1b[33m"

@[inherit_doc red]
def blue : String :=
  "\x1b[34m"

@[inherit_doc red]
def magenta : String :=
  "\x1b[35m"

@[inherit_doc red]
def cyan : String :=
  "\x1b[36m"

/-- The colour of a severity. -/
def levelColour : Level → String
  | .debug => green
  | .info => green
  | .warning => yellow
  | .error => red
  | .critical => red

/-- The colour of the name of a severity. Another name has none. -/
def labelColour (label : String) : String :=
  match Level.all.find? (·.label == label) with
  | some level => levelColour level
  | none => ""

/-- A text brought to a width by blanks at its end. -/
def pad (width : Nat) (text : Text.Points) : Text.Points :=
  text ++ List.replicate (width - text.length) (.character ' ')

/-- A text between two others that are never torn. -/
def between (before : String) (text : Text.Points) (after : String) : Text.Points :=
  Text.points before ++ text ++ Text.points after

def timeColumn (text : Text.Points) : Text.Points :=
  between dim text reset

/-- The column of the severity. -/
def levelColumn (label : Text.Points) : Text.Points :=
  let colour := ((Text.CodePoint.whole? label).map labelColour).getD ""
  between ("[" ++ colour ++ bold) (pad 9 label) (reset ++ "]")

def messageColumn (text : Text.Points) : Text.Points :=
  between bold (pad 30 text) reset

def loggerColumn (text : Text.Points) : Text.Points :=
  between ("[" ++ reset ++ bold ++ blue) text (reset ++ "]" ++ reset)

/-- Whether a text has to be quoted to be told from what stands around it. -/
def needsQuotes (text : Text.Points) : Bool :=
  text.any (Text.points " \t=\r\n\"'").contains

def valueText (value : EventValue) : Except Fault Text.Points :=
  match value.points? with
  | some text => .ok (if needsQuotes text then Text.points (Text.quotePoints text) else text)
  | none => value.literal.map Text.points

/-- The column of a field that has no place of its own. -/
def fieldColumn (field : String × EventValue) : Except Fault Text.Points := do
  let text ← valueText field.2
  .ok (between (cyan ++ field.1 ++ reset ++ "=" ++ magenta) text reset)

/-- The fields that have a column of their own, in the order of the columns. -/
def columns : List (String × (Text.Points → Text.Points)) :=
  [("timestamp", timeColumn), ("level", levelColumn), ("event", messageColumn),
    ("logger", loggerColumn), ("logger_name", loggerColumn)]

/-- The fields that follow the line. -/
def appendices : List String :=
  ["stack", "exception"]

/-- The columns that an event fills, in their order. -/
def ownColumns (event : Event) :
    List (String × (Text.Points → Text.Points)) → Except Fault (List Text.Points)
  | [] => .ok []
  | (name, column) :: rest =>
    match event.get? name with
    | none => ownColumns event rest
    | some value => do
      let text ← value.plain
      let others ← ownColumns event rest
      .ok (column text :: others)

/-- The column of the field whose name is empty, if there is one. It comes before all others. -/
def leadingColumn (event : Event) : Except Fault (List Text.Points) :=
  (event.get? "").toList.mapM fun value => fieldColumn ("", value)

/-- The fields without a place of their own, by name. -/
def otherFields (event : Event) : Event :=
  (event.filter fun field =>
    !field.1.isEmpty && !(columns.any (·.1 == field.1))
      && !(appendices.contains field.1)).mergeSort
        fun left right => decide (left.1 ≤ right.1)

/-- The text of a field that follows the line, if there is one. -/
def attached (event : Event) (name : String) : Except Fault (Option Text.Points) :=
  match event.get? name with
  | none => .ok none
  | some value => value.attachedText?

def trimSpaces (text : Text.Points) : Text.Points :=
  (text.reverse.dropWhile (· == .character ' ')).reverse

/-- The rule between a stack and an exception. -/
def rule : String :=
  String.ofList (List.replicate 79 '=')

def line (event : Event) : Except Fault Text.Points := do
  let own ← ownColumns event columns
  let stack ← attached event "stack"
  let exception ← attached event "exception"
  let leading ← leadingColumn event
  let others ← (otherFields event).mapM fieldColumn
  let columns := leading ++ own ++ others
  let head := trimSpaces ((columns.intersperse (Text.points " ")).flatten)
  let stackText := match stack with
    | none => []
    | some text =>
      between "\n" text (if exception.isSome then "\n\n" ++ rule ++ "\n" else "")
  let exceptionText := match exception with
    | none => []
    | some text => between "\n" text ""
  .ok (head ++ stackText ++ exceptionText ++ Text.points "\n")

end Console

end Attachments
