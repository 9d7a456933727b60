import Attachments.Supplied.Settings.File
import Attachments.Settings.Library
import Attachments.Text.Case

/-!
Contract: how the variables of a source are searched for settings.

Owns:
- the labels of the variables that can hold a setting;
- which variables of a source count, and the text that stands for null;
- the values that a source holds for the settings, and those that a settings file holds beside
  them.

Does not own: which settings there are, and which source comes first.
-/

namespace Attachments

/-- The options of a search: whether case counts in the names of variables, whether empty variables
are passed over, the text of a variable that stands for null, the value that leads the names of
variables, and before which names of a setting it stands. Only a text can stand there. -/
structure SettingsSearch where
  exactCase : Bool
  skipsEmpty : Bool
  nullText : Option String
  leading : Datum
  leadsNames : Bool
  leadsAliases : Bool

namespace SettingsSearch

/-- What counts of the name of a variable. -/
def spelled (search : SettingsSearch) (name : Text.Points) : Text.Points :=
  if search.exactCase then name else Text.lowerPoints name

def leadingText (search : SettingsSearch) : String :=
  match search.leading with
  | .text text => text
  | _ => ""

def lead (search : SettingsSearch) (stands : Bool) : String :=
  if stands then search.leadingText else ""

/-- The labels of a setting: its names, each with the variable that holds the setting under it. -/
def labels (search : SettingsSearch) (setting : Setting) : List (String × Text.Points) :=
  let label (stands : Bool) (name : String) : String × Text.Points :=
    (name, search.spelled (Text.points (search.lead stands ++ name)))
  setting.alias?.toList.map (label search.leadsAliases) ++ [label search.leadsNames setting.name]

/-- The variables of a source that count, under the names that count. Of several spellings the
first one gives the place and the last one the text. -/
def counted
    (search : SettingsSearch)
    (source : Fields Text.Points (Option Text.Points)) :
    Fields Text.Points (Option Text.Points) :=
  let kept := source.filter fun field => !(search.skipsEmpty && field.2 == some [])
  Fields.ofPairs (kept.map fun field => (search.spelled field.1, field.2))

/-- The value that the text of a variable stands for. -/
def read (search : SettingsSearch) (text : Text.Points) : GivenValue :=
  if search.nullText.map Text.points = some text then .whole .null else .ofPoints text

/-- The value that counted variables hold for a setting, with the name under which they hold it:
that of the first label with a value. -/
def heldFor?
    (search : SettingsSearch)
    (held : Fields Text.Points (Option Text.Points))
    (setting : Setting) :
    Option (String × GivenValue) :=
  (search.labels setting).findSome? fun (key, label) =>
    ((held.get? label).bind id).map fun text => (key, search.read text)

def values
    (search : SettingsSearch)
    (settings : List Setting)
    (source : Fields Text.Points (Option Text.Points)) :
    Fields String GivenValue :=
  settings.filterMap (search.heldFor? (search.counted source))

def environmentValues
    (search : SettingsSearch)
    (settings : List Setting)
    (environment : Environment) :
    Fields String GivenValue :=
  search.values settings
    (environment.map fun field => (Text.points field.1, some (Text.points field.2)))

/-- The name of a variable without the leading text, if it starts with it. Of the leading text too,
only what counts of a name is looked at. -/
def withoutLeading (search : SettingsSearch) (name : Text.Points) : Text.Points :=
  let leading := search.spelled (Text.points search.leadingText)
  if leading.isPrefixOf name then name.drop leading.length else name

/-- Whether a variable of the settings file is kept beside the values found so far: it has a text,
its name is not taken, and it is no variable of a setting. -/
def isFurther
    (search : SettingsSearch)
    (settings : List Setting)
    (found : Fields Text.Points GivenValue)
    (name text : Text.Points) :
    Bool :=
  text != []
    && !found.has name
    && !(search.leading.truthy && settings.any fun setting => Text.points setting.name == name)
    && !settings.any fun setting => (search.labels setting).any (·.2 == name)

/-- The values of a source under the code points of their names. -/
def foundValues
    (search : SettingsSearch)
    (settings : List Setting)
    (source : Fields Text.Points (Option Text.Points)) :
    Fields Text.Points GivenValue :=
  (search.values settings source).map fun field => (Text.points field.1, field.2)

/-- The values that a settings file holds: those for the settings, and its further variables under
their names without the leading text. -/
def fileValues
    (search : SettingsSearch)
    (settings : List Setting)
    (source : Fields Text.Points (Option Text.Points)) :
    Fields Text.Points GivenValue :=
  (search.counted source).foldl
    (fun found field =>
      match field.2 with
      | some text =>
        if search.isFurther settings found field.1 text then
          found.put (search.withoutLeading field.1) (.ofPoints text)
        else found
      | none => found)
    (search.foundValues settings source)

/-- Refuses a leading value that is no text where names are compared with it: always if what counts
of it has to be found first, else as soon as there is a further variable. -/
def checkLeading
    (search : SettingsSearch)
    (settings : List Setting)
    (source : Fields Text.Points (Option Text.Points)) :
    Except Fault Unit :=
  match search.leading with
  | .text _ => .ok ()
  | other =>
    if !search.exactCase then .error (.noOperation other.kind "lower")
    else
      let found := search.foundValues settings source
      if (search.counted source).any fun field =>
          field.2.any (search.isFurther settings found field.1) then
        .error (.nonTextStart other.kind)
      else .ok ()

end SettingsSearch

end Attachments
