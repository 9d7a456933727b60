import Attachments.Datum.Literal
import Attachments.Supplied.Settings.Boolean
import Attachments.Supplied.Settings.Command.Flag
import Attachments.Supplied.Settings.Options
import Attachments.Supplied.Text.Name

/-!
Contract: the flags under which settings can be given as arguments of a command.

Owns:
- the options that shape the flags, and what is wrong with their values;
- the names and spellings of the flags of each setting.

Does not own: how arguments are read.
-/

namespace Attachments

/-- How flags open: the characters that can start one, the double of which opens a long flag. -/
structure FlagOpening where
  first : Char
  rest : List Char
  deriving DecidableEq, Repr

namespace FlagOpening

/-- The characters that can start a flag. -/
def starts (opening : FlagOpening) : List Char :=
  opening.first :: opening.rest

/-- What stands before a name of some length: no more than the length of the name. -/
def before (opening : FlagOpening) (length : Nat) : String :=
  String.ofList ((opening.starts ++ opening.starts).take length)

/-- The flag that asks for help, which opens with a dash wherever that can start a flag. -/
def helpFlag (opening : FlagOpening) : CommandFlag :=
  let start := String.singleton (if '-' ∈ opening.starts then '-' else opening.first)
  ⟨[start ++ "h", start ++ start ++ "help"], "help", .asksForHelp⟩

end FlagOpening

/-- What shapes the flags of settings: how they open, the text that leads the names, whether names
are in small letters, and whether a dash stands for each low line. -/
structure FlagShape where
  opening : FlagOpening
  leading : String
  folds : Bool
  dashes : Bool

namespace SettingsOptions

/-! ## The options that shape flags -/

/-- The value whose double opens a long flag. -/
def flagStart (named : Fields String Datum) : Datum :=
  (option? named "_cli_flag_prefix_char").getD (.text "-")

/-- Refuses a value that has no double. -/
def checkFlagStart (named : Fields String Datum) : Except Fault Unit :=
  match flagStart named with
  | .dict entries => .error (.noMultiple (Datum.dict entries).kind)
  | _ => .ok ()

/-- Whether a text can lead the names of flags: it is a name but for points inside. -/
def isFlagLead (text : List Char) : Bool :=
  text.head? != some '.' && text.getLast? != some '.' && Text.isName (text.filter (· != '.'))

/-- The value that leads the names of flags. A point stands behind a text. -/
def flagLeading (named : Fields String Datum) : Except Fault Datum :=
  match option? named "_cli_prefix" with
  | none | some (.text "") => .ok (.text "")
  | some (.text text) =>
    if isFlagLead text.toList then .ok (.text (text ++ ".")) else .error (.badFlagLead text)
  | some other =>
    if other.truthy then .error (.noOperation other.kind "startswith")
    else if other.elements?.isSome then .ok other
    else .error (.noLength other.kind)

/-- Why flags cannot open with the items of a list: the flag that asks for help cannot be made up of
them. -/
def listFault (items : List Datum) : Fault :=
  if items.contains (.text "-") then .nonTextMargin
  else
    match items with
    | [] => .beyondEnd .list
    | .text start :: _ =>
      if start.length = 1 then .nonTextMargin
      else .badFlag (start ++ "h") (Datum.list items).literal
    | .list _ :: _ => .listSum
    | other :: _ => .noSum other.kind

/-- How flags open. Only a text can open them. -/
def flagOpening (named : Fields String Datum) : Except Fault FlagOpening :=
  match flagStart named with
  | .text text =>
    match text.toList with
    | [] => .error (.beyondEnd .text)
    | first :: rest => .ok ⟨first, rest⟩
  | .list items => .error (listFault items)
  | other => .error (.notContainer other.kind)

def booleanIssue? (named : Fields String Datum) (option location : String) : Option Issue :=
  (option? named option).bind fun value =>
    match SettingsBoolean.read value with
    | .ok _ => none
    | .error kind => some ⟨kind, [location], .whole value⟩

/-- The words that can say for which names a dash stands for each low line. -/
def dashWords : List String :=
  ["all", "no_enums"]

/-- The issues with the option that puts dashes for low lines: it is neither a boolean nor one of
the words. -/
def dashIssues (named : Fields String Datum) : List Issue :=
  match option? named "_cli_kebab_case" with
  | none => []
  | some value =>
    if dashWords.any (value == .text ·) then []
    else
      match booleanIssue? named "_cli_kebab_case" "bool" with
      | none => []
      | some issue =>
        let words := "literal[" ++ ",".intercalate (dashWords.map Text.quote) ++ "]"
        [⟨issue.kind, ["kebab_case", "bool"], .whole value⟩,
          ⟨.unknownChoice dashWords, ["kebab_case", words], .whole value⟩]

/-- The issues with the options that shape flags. -/
def shapeIssues (leading : Datum) (named : Fields String Datum) : List Issue :=
  (match leading with
    | .text _ => []
    | other => [⟨.notText, ["arg_prefix"], .whole other⟩])
    ++ (booleanIssue? named "_case_sensitive" "case_sensitive").toList
    ++ (booleanIssue? named "_cli_hide_none_type" "hide_none_type").toList
    ++ dashIssues named

def flagShape (named : Fields String Datum) : Except SettingsFailure FlagShape := do
  SettingsFailure.ofFault (checkFlagStart named)
  let leading ← SettingsFailure.ofFault (flagLeading named)
  let opening ← SettingsFailure.ofFault (flagOpening named)
  match leading, shapeIssues leading named with
  | .text text, [] =>
    let exact := ((option? named "_case_sensitive").map SettingsBoolean.read).any fun
      | .ok answer => answer
      | .error _ => false
    let dashes := (option? named "_cli_kebab_case").any fun value => !(value == .bool false)
    .ok ⟨opening, text, !exact, dashes⟩
  | _, issues => .error (.issues issues)

/-! ## The flags of settings -/

/-- The names that a setting has among flags. -/
def flagKeys (shape : FlagShape) (setting : Setting) : List String :=
  if shape.folds then (setting.keys.map Text.lower).eraseDups else setting.keys

def flagName (shape : FlagShape) (key : String) : String :=
  let name := shape.leading ++ key
  if shape.dashes then name.map fun character => if character = '_' then '-' else character
  else name

/-- Further names of a flag: those of all shortcuts to one of its names. -/
def withShortcuts (named : Fields String Datum) (taken names : List Datum) :
    Except Fault (List Datum) :=
  match (option? named "_cli_shortcuts").filter (·.truthy) with
  | none => .ok names
  | some (.dict entries) =>
    entries.foldlM
      (fun names (target, shortcuts) =>
        if names.contains target then
          match shortcuts with
          | .text shortcut => .ok (names ++ [Datum.text shortcut].filter (!taken.contains ·))
          | other =>
            match other.elements? with
            | some items => .ok (names ++ items.filter (!taken.contains ·))
            | none => .error (.notIterable other.kind)
        else .ok names)
      names
  | some other => .error (.noOperation other.kind "items")

def checkSpellings (opening : FlagOpening) (spellings : List String) : Except Fault Unit :=
  match spellings.find? fun spelling => !spelling.toList.head?.any opening.starts.contains with
  | none => .ok ()
  | some "" => .error (.beyondEnd .text)
  | some spelling =>
    .error (.badFlag spelling (Datum.text (String.ofList opening.starts)).literal)

def flagSpelling (opening : FlagOpening) : Datum → Except Fault String
  | .text name => .ok (opening.before name.length ++ name)
  | other =>
    match other.elements? with
    | some items => .ok (opening.before items.length ++ other.literal)
    | none => .error (.noLength other.kind)

/-- What the flag of a setting sets. The leading text belongs to it only if the setting has one
name. -/
def flagTarget (shape : FlagShape) (setting : Setting) : String :=
  let key := (flagKeys shape setting).headD setting.name
  if setting.alias?.isSome then key else shape.leading ++ key

/-- The flag of a setting with some spellings. The flag of a yes-or-no question need not take a
value. -/
def flagOf (named : Fields String Datum) (setting : Setting) (target : String)
    (spellings : List String) : CommandFlag :=
  match setting.answer?, (option? named "_cli_implicit_flags").filter (·.truthy) with
  | none, _ | _, none => ⟨spellings, target, .takesValue⟩
  | some answer, some (.text "toggle") => ⟨spellings, target, .fixed (!answer)⟩
  | some _, some _ => ⟨CommandFlag.withDenials spellings, target, .asSpelled⟩

/-- Puts the flag of a setting behind the others. The names that are taken are passed on. A setting
without a name of its own has no flag. -/
def addFlag
    (shape : FlagShape)
    (named : Fields String Datum)
    (state : CommandForm × List Datum)
    (setting : Setting) :
    Except Fault (CommandForm × List Datum) := do
  let (form, taken) := state
  let own := (flagKeys shape setting).map fun key => Datum.text (flagName shape key)
  let names ← withShortcuts named taken (own.filter (!taken.contains ·))
  let target := flagTarget shape setting
  if names.isEmpty || taken.contains (.text target) then .ok state
  else
    let spellings ← names.mapM (flagSpelling shape.opening)
    checkSpellings shape.opening spellings
    let form ← form.add (flagOf named setting target spellings)
    .ok (form, taken ++ names)

def commandForm
    (shape : FlagShape)
    (settings : List Setting)
    (named : Fields String Datum) :
    Except Fault CommandForm := do
  let start : CommandForm := ⟨shape.opening.starts, [shape.opening.helpFlag]⟩
  let (form, _) ← settings.foldlM (addFlag shape named) (start, [])
  .ok form

end SettingsOptions

end Attachments
