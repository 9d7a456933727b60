import Attachments.Settings.Library

/-!
Contract: the settings that decide whether legacy identifiers are read.

Owns:
- the setting, the text that leads its variable, and its default.

Does not own: how long loaded settings are kept.
-/

namespace Attachments

/-- The settings of identifier reading. -/
structure LegacySettings where
  allowLegacy : Bool
  deriving DecidableEq, Repr

namespace LegacySettings

def setting : Setting :=
  ⟨"allow_legacy", none, some true⟩

/-- The settings that are loaded, from the settings file too. -/
def group : SettingsGroup :=
  ⟨[setting], "ATTACHMENT_ID_", true⟩

/-- The settings that a given value makes. Where no source names the setting, legacy identifiers
are read. -/
def ofGiven (library : SettingsLibrary) :
    Option (String × GivenValue) → Except Issue LegacySettings
  | none => .ok ⟨true⟩
  | some (location, value) =>
    match library.readBoolean value with
    | .ok allowLegacy => .ok ⟨allowLegacy⟩
    | .error kind => .error ⟨kind, [location], value⟩

def load (library : SettingsLibrary) (origins : SettingsOrigins) :
    Except SettingsFailure LegacySettings :=
  match library.find group origins with
  | .error failure => .error failure
  | .ok found =>
    match ofGiven library (found setting) with
    | .ok settings => .ok settings
    | .error issue => .error (.issues [issue])

end LegacySettings

end Attachments
