import Attachments.Supplied.Settings.Command.Source

/-!
Contract: the sources of a group of settings.

Owns:
- where the settings of a group are looked for;
- the order of the sources: arguments, names, environment, settings file.

Does not own: what the values mean.
-/

namespace Attachments

/-- The values that each source holds under the names of settings. Values given by name are kept as
they were given. -/
structure SettingsSources where
  arguments : Fields String Datum
  named : Fields String Datum
  environment : Fields String GivenValue
  file : Fields Text.Points GivenValue

namespace SettingsSources

def empty : SettingsSources :=
  ⟨[], [], [], []⟩

/-- The value that is given by name, whatever the case of the name. Of several spellings the first
one counts. -/
def givenByName? (sources : SettingsSources) (setting : Setting) : Option Datum :=
  (sources.named.find? fun field => Text.lower field.1 == setting.name).map (·.2)

/-- The value that is given for a setting under one of its names. What is given by name counts under
the usual name. -/
def givenUnder? (sources : SettingsSources) (setting : Setting) (key : String) :
    Option GivenValue :=
  (sources.arguments.get? key).map .whole
    <|> (if key = setting.usualKey then (sources.givenByName? setting).map .whole else none)
    <|> sources.environment.get? key
    <|> sources.file.get? (Text.points key)

/-- The value of a setting, and the name to which it is put down: that of the setting if something
was given under it, else the one under which it was found. -/
def given? (sources : SettingsSources) (setting : Setting) : Option (String × GivenValue) :=
  setting.keys.findSome? fun key =>
    (sources.givenUnder? setting key).map fun value =>
      (if sources.named.has setting.name then setting.name else key, value)

end SettingsSources

namespace SettingsGroup

/-- The first setting with a variable whose name is led by something. -/
def firstLed? (group : SettingsGroup) (search : SettingsSearch) : Option Setting :=
  group.settings.find? fun setting =>
    search.leadsNames || search.leadsAliases && setting.alias?.isSome

/-- The sources of the settings as the options say. Only a text can stand before a name, which shows
when the first such name is made up. -/
def sources
    (group : SettingsGroup)
    (named : Fields String Datum)
    (environment : Environment)
    (file : Option String) :
    Except SettingsFailure SettingsSources := do
  SettingsFailure.ofFault (SettingsOptions.checkNames named)
  if ← SettingsFailure.ofFault (SettingsOptions.replacesSources named) then return .empty
  SettingsFailure.ofFault (SettingsOptions.checkNesting named)
  let leading ← SettingsFailure.ofFault (SettingsOptions.leading group.leading named)
  let search := SettingsOptions.search leading named
  let text? ← SettingsFailure.ofFault <|
    SettingsOptions.fileText group.searchesFile named environment file
  let arguments ← SettingsOptions.argumentValues group.settings named
  match leading, group.firstLed? search with
  | .text _, _ | _, none => pure ()
  | _, some setting => throw (.fault (.unreadableSetting setting.name))
  let entries := (text?.map (SettingsFile.record environment)).getD []
  SettingsFailure.ofFault (search.checkLeading group.settings entries)
  SettingsFailure.ofFault (SettingsOptions.checkSecrets named environment file)
  .ok {
    arguments := arguments
    named := named
    environment := search.environmentValues group.settings environment
    file := search.fileValues group.settings entries }

end SettingsGroup

end Attachments
