import Attachments.Datum.Literal
import Attachments.Text.CodePoint

/-!
Contract: values as JSON text on one line.

Owns:
- strings in ASCII, with short escapes, and with a pair of units for each code point beyond the
  first plane;
- the spelling of all values, the members of an object in their order;
- what keeps a value from being written as JSON.

Does not own: reading JSON.
-/

namespace Attachments

namespace Json

def unitEscape (unit : Nat) : List Char :=
  '\\' :: 'u' :: Text.hexDigits 4 unit

/-- One character of a string. -/
def escape (character : Char) : List Char :=
  match character with
  | '"' => ['\\', '"']
  | '\\' => ['\\', '\\']
  | '\n' => ['\\', 'n']
  | '\r' => ['\\', 'r']
  | '\t' => ['\\', 't']
  | '\x08' => ['\\', 'b']
  | '\x0c' => ['\\', 'f']
  | _ =>
    let code := character.toNat
    if 0x20 ≤ code ∧ code < 0x7F then [character]
    else if code < 0x10000 then unitEscape code
    else
      unitEscape (0xD800 + (code - 0x10000) / 0x400)
        ++ unitEscape (0xDC00 + (code - 0x10000) % 0x400)

def quote (text : String) : String :=
  String.ofList ('"' :: text.toList.flatMap escape ++ ['"'])

/-- A text that may be torn, in which a half of a pair is one unit. -/
def quotePoints (text : Text.Points) : String :=
  String.ofList ('"' :: (text.flatMap fun
    | .character character => escape character
    | .half unit => unitEscape unit) ++ ['"'])

/-- A list of written values. -/
def array (items : List String) : String :=
  "[" ++ ", ".intercalate items ++ "]"

/-- The members of an object, each a name with a written value. -/
def object (members : List (String × String)) : String :=
  let written := members.map fun member => quote member.1 ++ ": " ++ member.2
  "\x7b" ++ ", ".intercalate written ++ "\x7d"

end Json

namespace Datum

/-! ## The spelling -/

/-- The name under which a key stands in an object. -/
def memberName : Datum → String
  | .null => "null"
  | .bool value => if value then "true" else "false"
  | .text value => value
  | other => other.literal

mutual

/-- The JSON text of a value. An object is written as a string that holds its literal form. -/
def json : Datum → String
  | .null => "null"
  | .bool value => if value then "true" else "false"
  | .int value => toString value
  | .real value => value.literal
  | .text value => Json.quote value
  | .list items => Json.array (jsonItems items)
  | .tuple items => Json.array (jsonItems items)
  | .dict entries => Json.object (jsonMembers entries)
  | .object value => Json.quote value.literal

def jsonItems : List Datum → List String
  | [] => []
  | item :: rest => json item :: jsonItems rest

/-- The members of a dictionary. -/
def jsonMembers : List (Datum × Datum) → List (String × String)
  | [] => []
  | (key, value) :: rest => (key.memberName, json value) :: jsonMembers rest

end

/-! ## What cannot be written -/

/-- What keeps a value from being the name of a member. -/
def nameFault? : Datum → Option Fault
  | .int value => (digitObstacle? value).map .unwritable
  | .list _ => some (.notMemberName .list)
  | .tuple _ => some (.notMemberName .tuple)
  | .dict _ => some (.notMemberName .dict)
  | .object value => some (.notMemberName (.object value.className))
  | _ => none

mutual

/-- What keeps a value from being written as JSON. -/
def jsonFault? : Datum → Option Fault
  | .int value => (digitObstacle? value).map .unwritable
  | .list items => itemsFault? items
  | .tuple items => itemsFault? items
  | .dict entries => membersFault? entries
  | .object value => value.obstacle?.map .unwritable
  | _ => none

/-- What keeps the first of the items from being written. -/
def itemsFault? : List Datum → Option Fault
  | [] => none
  | item :: rest => jsonFault? item <|> itemsFault? rest

/-- What keeps the first of the members from being written, its name before its value. -/
def membersFault? : List (Datum × Datum) → Option Fault
  | [] => none
  | (key, value) :: rest => nameFault? key <|> jsonFault? value <|> membersFault? rest

end

end Datum

end Attachments
