import Attachments.Supplied.Settings.Place
import Attachments.Supplied.Settings.Search
import Attachments.Supplied.Text.Encoding

/-!
Contract: the options that can be given beside the settings.

Owns:
- the names of the options and the values that they take;
- what is wrong with the value of an option.

Does not own: in which order options are looked at.
-/

namespace Attachments

namespace SettingsOptions

def option? (named : Fields String Datum) (name : String) : Option Datum :=
  (named.get? name).filter fun value => !value.isNull

/-- Whether an option is given with a value that counts as true. -/
def isOn (named : Fields String Datum) (name : String) : Bool :=
  (option? named name).any (·.truthy)

/-- The text that stands for null in variables. Only a text can. -/
def nullText? (named : Fields String Datum) : Option String :=
  match option? named "_env_parse_none_str" with
  | some (.text text) => some text
  | _ => none

/-- Refuses the name under which the settings are at hand while they are made. -/
def checkNames (named : Fields String Datum) : Except Fault Unit :=
  let own := "__pydantic_self__"
  if named.has own then .error (.misusedCall "BaseSettings.__init__" (.repeated own)) else .ok ()

/-- Whether the sources are given themselves, as the first part of a pair. Only a part that holds no
source is of use, for no value can be asked for settings. -/
def replacesSources (named : Fields String Datum) : Except Fault Bool :=
  match option? named "_build_sources" with
  | none => .ok false
  | some pair =>
    match pair.elements? with
    | none => .error (.notUnpackable pair.kind)
    | some [sources, _] =>
      if !sources.truthy then .ok true
      else
        match sources.elements? with
        | none => .error (.notIterable sources.kind)
        | some [] => .ok true
        | some (first :: _) => .error (.notCallable first.kind)
    | some parts =>
      if parts.length < 2 then .error (.tooFewParts parts.length 2) else .error (.tooManyParts 2)

/-- Refuses a limit of nesting that cannot be counted down. -/
def checkNesting (named : Fields String Datum) : Except Fault Unit :=
  match option? named "_env_nested_max_split" with
  | none => .ok ()
  | some limit =>
    if limit.truthy && limit.elements?.isSome then .error (.noDifference limit.kind) else .ok ()

def leading (usual : String) (named : Fields String Datum) : Except Fault Datum :=
  let value := (option? named "_env_prefix").getD (.text usual)
  if value.elements?.isSome then .ok value else .error (.noLength value.kind)

/-- The search for settings whose variables are led by a value. -/
def search (leading : Datum) (named : Fields String Datum) : SettingsSearch :=
  let target := (option? named "_env_prefix_target").getD (.text "variable")
  { exactCase := isOn named "_case_sensitive"
    skipsEmpty := isOn named "_env_ignore_empty"
    nullText := nullText? named
    leading := leading
    leadsNames := target matches .text "variable" | .text "all"
    leadsAliases := target matches .text "alias" | .text "all" }

/-- The encoding of the settings file. The word for the usual one counts only as it is. -/
def encoding (named : Fields String Datum) : Except Fault Text.Encoding :=
  match option? named "_env_file_encoding" with
  | none | some (.text "locale") => .ok .utf8
  | some (.text name) =>
    if '\x00' ∈ name.toList then .error .nullInEncoding
    else if Text.isTransform name then .error (.transformForEncoding name)
    else
      match Text.Encoding.ofName? name with
      | some encoding => .ok encoding
      | none => .error (.unknownEncoding name)
  | some other => .error (.nonTextEncoding other.kind)

/-- The text of the settings file as it reads in its encoding. -/
def reread (named : Fields String Datum) (file : String) : Except Fault Text.Points := do
  match (← encoding named).reread file with
  | .ok text => .ok text
  | .error cause => .error (.undecodable cause)

/-- Unless an encoding is given, the settings file reads as its text says. -/
theorem reread_nil (file : String) : reread [] file = .ok (Text.points file) := by
  rfl

/-- Refuses a number of directories that cannot be counted off. It is looked at where the settings
file is searched in the directories above. -/
def checkDepth (named : Fields String Datum) : Except Fault Unit :=
  match (option? named "_env_file_depth").getD (.int 0) with
  | .bool _ | .null => .ok ()
  | .int depth => if 0x8000000000000000 ≤ depth then .error .uncountable else .ok ()
  | .real depth => if 0 < depth.amount then .error .uncountable else .ok ()
  | other => .error (.unordered .atMost other.kind .int)

/-- The text that is read at a path, if the path leads to the settings file. Where a path that does
not start at the root leads to no file, the search goes on above, where there is none either. -/
def textAt
    (named : Fields String Datum)
    (file : Option String)
    (path : SettingsPath) :
    Except Fault (Option Text.Points) := do
  match ← SettingsPlace.at? file.isSome path with
  | .settingsFile => file.mapM (reread named)
  | .foreignFile => (encoding named).map fun _ => none
  | _ => if path.isAbsolute then .ok none else (checkDepth named).map fun _ => none

/-- The text of the settings file, if there is one and a path leads to it. Paths are followed one
after the other. -/
def fileText
    (searchesFile : Bool)
    (named : Fields String Datum)
    (environment : Environment)
    (file : Option String) :
    Except Fault (Option Text.Points) := do
  let usual : Datum := if searchesFile then .text ".env" else .null
  let paths ← SettingsPath.items ((named.get? "_env_file").getD usual)
  let texts ← paths.mapM fun path => do
    textAt named file (← SettingsPath.ofItem environment path)
  .ok (texts.findSome? id)

/-- Without options the settings file is read at its own path. -/
theorem textAt_nil_file (file : Option String) :
    textAt [] file SettingsPath.file = .ok (file.map Text.points) := by
  unfold textAt
  rw [SettingsPlace.at?_file]
  cases file with
  | none => rfl
  | some text =>
    change (reread [] text).map some = _
    rw [reread_nil]
    rfl

/-- Without options the settings file is read where it is usually searched. -/
theorem fileText_nil (searchesFile : Bool) (environment : Environment) (file : Option String) :
    fileText searchesFile [] environment file =
      .ok (if searchesFile then file.map Text.points else none) := by
  cases searchesFile with
  | false => rfl
  | true =>
    have read := textAt_nil_file file
    simp [fileText, SettingsPath.items, Fields.get?, SettingsPath.ofItem_file, read, bind,
      Except.bind, pure, Except.pure]

/-- Refuses a place that is no directory where a directory of secrets is meant. -/
def checkSecrets
    (named : Fields String Datum)
    (environment : Environment)
    (file : Option String) :
    Except Fault Unit := do
  let items ← SettingsPath.items ((named.get? "_secrets_dir").getD .null)
  let paths ← items.mapM (SettingsPath.ofItem environment)
  let places ← paths.mapM (SettingsPlace.at? file.isSome)
  match places.find? fun place => place != .nothing && place != .directory with
  | some place => .error (.notDirectory place.label)
  | none => .ok ()

end SettingsOptions

end Attachments
