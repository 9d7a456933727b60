import Attachments.Settings.Environment
import Attachments.Settings.Issue

/-!
Contract: what the program takes from the library that loads settings.

Owns:
- settings, and groups of them that are loaded together;
- the operations of the library: which names are its own options, what a settings file binds, what
  the sources hold for the settings of a group, and how values are read.

Does not own: what the operations do. What the library documents about them is a law of its own.
-/

namespace Attachments

/-- A setting: its name, another name under which it is usually given, if it has one, and its usual
answer, if it is a yes-or-no question. The name is in small letters, and the other name differs from
it by case only. -/
structure Setting where
  name : String
  alias? : Option String
  answer? : Option Bool
  deriving DecidableEq, Repr

namespace Setting

/-- The names of a setting, the usual one first. -/
def keys (setting : Setting) : List String :=
  setting.alias?.toList ++ [setting.name]

def usualKey (setting : Setting) : String :=
  setting.alias?.getD setting.name

end Setting

/-- Settings that are loaded together, the text that usually leads the names of their variables,
and whether they are usually looked for in the settings file. -/
structure SettingsGroup where
  settings : List Setting
  leading : String
  searchesFile : Bool
  deriving DecidableEq, Repr

/-- A variable of a settings file. A name that stands alone has no value. -/
structure SettingsBinding where
  name : Text.Points
  value? : Option Text.Points
  deriving DecidableEq, Repr

/-- The sources of settings: values given by name, the environment, and the text of the settings
file, if there is one. -/
structure SettingsOrigins where
  named : Fields String Datum
  environment : Environment
  file : Option String

/-- The value that was found for each setting, with the name to which it is put down. -/
abbrev FoundSettings :=
  Setting → Option (String × GivenValue)

/-- The library that loads settings. -/
structure SettingsLibrary where
  isOption : String → Bool
  bindings : String → List SettingsBinding
  find : SettingsGroup → SettingsOrigins → Except SettingsFailure FoundSettings
  readBoolean : GivenValue → Except IssueKind Bool
  readText : GivenValue → Except IssueKind String

end Attachments
