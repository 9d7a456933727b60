import Attachments.Datum.Json
import Attachments.Supplied.Settings.Command.Form
import Attachments.Supplied.Settings.Command.Values

/-!
Contract: the settings that are given as arguments of a command.

Owns:
- which arguments are read, and in which case;
- what follows from the misuse of the command;
- the values that arguments give for settings.

Does not own: the flags.
-/

namespace Attachments

namespace SettingsOptions

/-- The value that stands for null in arguments: that of variables, else one of their own, else the
word of one of two notations. -/
def argumentNull (named : Fields String Datum) : Datum :=
  let given (name : String) : Option Datum := (option? named name).filter (·.truthy)
  (given "_env_parse_none_str" <|> given "_cli_parse_none_str").getD
    (.text (if named.get? "_cli_avoid_json" matches some (.bool true) then "None" else "null"))

/-- The arguments of the command, if they are read. The program itself is run without arguments. -/
def arguments? (named : Fields String Datum) : Except Fault (Option (List Datum)) :=
  match named.get? "_cli_parse_args" with
  | none | some .null => .ok none
  | some (.bool true) => .ok (some [])
  | some (.list items) => .ok (some items)
  | some other =>
    if other.integer? = some 0 ∨ other.amount? = some 0 then .ok none
    else .error (.nonListArguments other.kind)

/-- An argument as a text. What counts as false is an empty text. -/
def argumentText : Datum → Except Fault String
  | .text argument => .ok argument
  | other => if other.truthy then .error (.notMatchable other.kind) else .ok ""

/-- The arguments with flags in the case in which they are known, where case does not count. -/
def foldedArguments
    (form : CommandForm)
    (opening : List Char)
    (named : Fields String Datum)
    (arguments : List Datum) :
    Except Fault (List Datum) :=
  match option? named "_case_sensitive" with
  | none | some (.bool false) => do
    let texts ← arguments.mapM argumentText
    match texts, CommandForm.searchFault? opening with
    | _ :: _, some reason => .error (.badSearch reason)
    | texts, _ => .ok (texts.map fun text => .text (form.folded opening text))
  | some _ => .ok arguments

/-- Refuses arguments that set nothing. -/
def unrecognized (others : List Datum) : Fault ⊕ CommandMisuse :=
  let index := others.findIdx fun other => !(other matches .text _)
  match others[index]? with
  | some other => .inl (.unjoinableItem index other.kind)
  | none =>
    .inr <| .unrecognized <| others.filterMap fun
      | .text other => some other
      | _ => none

/-- What follows from the misuse of the command: the program ends, unless misuse is to be reported.
-/
def misused (named : Fields String Datum) (misuse : CommandMisuse) : Fault :=
  if ((option? named "_cli_exit_on_error").map (·.truthy)).getD true then .endOfProgram 2
  else .misusedCommand misuse

/-- What the arguments set. -/
def settledBy (form : CommandForm) (named : Fields String Datum) (arguments : List Datum) :
    Except Fault (List (String × Datum)) := do
  match form.settle (← form.read arguments) with
  | .error .help => .error (.endOfProgram 0)
  | .error (.misuse misuse) => .error (misused named misuse)
  | .ok values =>
    if values.others.isEmpty || isOn named "_cli_ignore_unknown_args" then .ok values.settled
    else
      match unrecognized values.others with
      | .inl fault => .error fault
      | .inr misuse => .error (misused named misuse)

/-- The value that an argument stands for, if it stands for one. A list is written out. -/
def argumentValue? (nullValue : Datum) (value : Datum) : Option Datum :=
  if value.isNull then none
  else if value == nullValue then some .null
  else
    match value with
    | .list items => some (.text ("[" ++ ",".intercalate (items.map Datum.json) ++ "]"))
    | other => some other

/-- The values that arguments give for settings. Of several arguments with one flag the last one
counts. -/
def argumentValues
    (settings : List Setting)
    (named : Fields String Datum) :
    Except SettingsFailure (Fields String Datum) := do
  if (option? named "_cli_parse_args").isNone then .ok []
  else
    let shape ← flagShape named
    let form ← SettingsFailure.ofFault (commandForm shape settings named)
    match ← SettingsFailure.ofFault (arguments? named) with
    | none => .ok []
    | some arguments =>
      let arguments ← SettingsFailure.ofFault <|
        foldedArguments form shape.opening.starts named arguments
      let settled ← SettingsFailure.ofFault (settledBy form named arguments)
      let search : SettingsSearch := {
        exactCase := isOn named "_case_sensitive"
        skipsEmpty := false
        nullText := none
        leading := .text shape.leading
        leadsNames := true
        leadsAliases := false }
      let held := Fields.ofPairs (settled.map fun pair =>
        (search.spelled (Text.points pair.1), pair.2))
      .ok <| settings.filterMap fun setting =>
        (search.labels setting).findSome? fun (key, label) =>
          ((held.get? label).bind (argumentValue? (argumentNull named))).map (key, ·)

end SettingsOptions

end Attachments
