import Attachments.Settings.Library
import Attachments.Text.Case

/-!
Contract: the settings of logging.

Owns:
- the two settings, the names under which each can be given, and their defaults;
- the reading of the name of a severity, and the number that is found under a name.

Does not own: what logging does with them.
-/

namespace Attachments

/-- The settings of logging: the name of the least severity that is shown, and the name of the
environment the program runs in. Both can be assigned, so a name need not be that of a severity. -/
structure LogSettings where
  level : String
  environment : String
  deriving DecidableEq, Repr

namespace LogSettings

/-- Whether records are written as JSON. -/
def useJson (settings : LogSettings) : Bool :=
  settings.environment == "production"

/-- The number of the least severity. Under a name that stands for no number, it is the number of
information. -/
def levelNumber (settings : LogSettings) : Nat :=
  (Level.numberNamed? settings.level).getD Level.info.number

/-- The setting of the least severity. -/
def levelSetting : Setting :=
  ⟨"log_level", some "LOG_LEVEL", none⟩

def environmentSetting : Setting :=
  ⟨"environment", some "ENVIRONMENT", none⟩

/-- The settings that are loaded, but not from the settings file. -/
def group : SettingsGroup :=
  ⟨[levelSetting, environmentSetting], "", false⟩

/-- The text in which a severity is looked for: a text in capital letters, and the plain form of any
other value, if it can be written. -/
def levelText : Datum → Except IssueKind String
  | .text text => .ok (Text.upper text)
  | other =>
    match other.obstacle? with
    | some reason => .error (.unwritable reason)
    | none => .ok other.plain

/-- Reads the name of a severity. No severity has a torn name. -/
def levelOf : GivenValue → Except IssueKind String
  | .whole value =>
    match levelText value with
    | .ok name => if (Level.ofName? name).isSome then .ok name else .error .unknownLevel
    | .error kind => .error kind
  | .torn _ => .error .unknownLevel

/-- The value of a setting that may have been given, or the issue with it. -/
def settle {Value : Type}
    (read : GivenValue → Except IssueKind Value)
    (default : Value) :
    Option (String × GivenValue) → Except Issue Value
  | none => .ok default
  | some (location, value) =>
    match read value with
    | .ok settled => .ok settled
    | .error kind => .error ⟨kind, [location], value⟩

/-- The settings that given values make. All issues are reported, the severity's first. -/
def ofGiven (library : SettingsLibrary) (level environment : Option (String × GivenValue)) :
    Except (List Issue) LogSettings :=
  match settle levelOf Level.info.name level,
      settle library.readText "development" environment with
  | .ok level, .ok name => .ok ⟨level, name⟩
  | .error issue, .ok _ => .error [issue]
  | .ok _, .error issue => .error [issue]
  | .error first, .error second => .error [first, second]

def load (library : SettingsLibrary) (origins : SettingsOrigins) :
    Except SettingsFailure LogSettings :=
  match library.find group origins with
  | .error failure => .error failure
  | .ok found =>
    match ofGiven library (found levelSetting) (found environmentSetting) with
    | .ok settings => .ok settings
    | .error issues => .error (.issues issues)

end LogSettings

end Attachments
