import Attachments.Proofs.Settings.FileVariables
import Attachments.Settings.Answer
import Attachments.Settings.Legacy
import Attachments.Settings.Logging

/-!
Contract: what the library that loads settings documents.

Owns:
- what each source holds for a setting, and the value that counts: of a value given by name, a
  variable of the environment and a variable of the settings file the first there is;
- the laws of the library for sources without options;
- values of objects, which the library reads in its own way.

Does not own: what the program makes of the values.
-/

namespace Attachments

/-! ## What counts for a setting -/

namespace SettingsGroup

variable (group : SettingsGroup) (setting : Setting)

/-- The variable that holds a setting, in small letters. -/
def variableName : Text.Points :=
  Text.lowerPoints (Text.points (group.leading ++ setting.name))

/-- Whether a name is a spelling of the variable. Case does not count. -/
def spellsVariable (name : Text.Points) : Bool :=
  Text.lowerPoints name == group.variableName setting

/-- What variables hold for a setting. Of several spellings the last one counts, even if it has no
value. -/
def heldText? (source : Fields Text.Points (Option Text.Points)) : Option Text.Points :=
  (source.last? (group.spellsVariable setting)).bind id

end SettingsGroup

/-- Whether a name is a spelling of a setting's. Case does not count. -/
def Setting.isSpelledBy (setting : Setting) (name : String) : Bool :=
  Text.lower name == setting.name

namespace SettingsOrigins

variable (library : SettingsLibrary) (origins : SettingsOrigins)

/-- The bindings of the settings file. -/
def lines : List SettingsBinding :=
  (origins.file.map library.bindings).getD []

/-- None of the values given by name is an option of the library. -/
def HasNoOption : Prop :=
  ∀ field ∈ origins.named, library.isOption field.1 = false

instance : Decidable (origins.HasNoOption library) :=
  inferInstanceAs (Decidable (∀ field ∈ origins.named, library.isOption field.1 = false))

variable (group : SettingsGroup) (setting : Setting)

/-- The value given by name. Of several spellings the first one counts. -/
def namedValue? : Option GivenValue :=
  (origins.named.find? fun field => setting.isSpelledBy field.1).map fun field => .whole field.2

/-- The value that the environment holds. Of several spellings the last one counts. -/
def environmentValue? : Option GivenValue :=
  (origins.environment.last? fun name => group.spellsVariable setting (Text.points name)).map
    fun text => .whole (.text text)

/-- The value that the settings file holds, if it is searched. -/
def fileValue? : Option GivenValue :=
  if group.searchesFile then
    (group.heldText? setting (Fields.ofPairs
      (SettingsFile.boundFrom origins.environment [] (origins.lines library)))).map .ofPoints
  else none

/-- The value that counts, if any source names the setting. -/
def decisive? : Option GivenValue :=
  origins.namedValue? setting
    <|> origins.environmentValue? group setting
    <|> origins.fileValue? library group setting

/-- The value that counts with the name to which it is put down: the setting's own only if something
was given under it. -/
def winning? : Option (String × GivenValue) :=
  (origins.decisive? library group setting).map fun value =>
    (if origins.named.has setting.name then setting.name else setting.usualKey, value)

end SettingsOrigins

/-! ## The laws -/

namespace SettingsLibrary

def loadedGroups : List SettingsGroup :=
  [LegacySettings.group, LogSettings.group]

/-- What the library documents. Without options, what is found for a setting is what the first
source holds that names it, of values given by name, the environment and the settings file; and what
is found is always put down to a name of the setting. Of the built-in values, those that answer are
read as answers, and the whole texts as texts. -/
structure Documented (library : SettingsLibrary) : Prop where
  finds : ∀ group ∈ loadedGroups, ∀ origins : SettingsOrigins, origins.HasNoOption library →
    ∃ found, library.find group origins = .ok found ∧
      ∀ setting ∈ group.settings, found setting = origins.winning? library group setting
  locates : ∀ group origins found, library.find group origins = .ok found →
    ∀ setting, ∀ pair ∈ found setting, pair.1 ∈ setting.keys
  answers : ∀ value : GivenValue, value.IsBuiltIn →
    ∀ answer, library.readBoolean value = .ok answer ↔ SettingsBoolean.Answers value answer
  texts : ∀ value : GivenValue, value.IsBuiltIn →
    ∀ text, library.readText value = .ok text ↔ value = .whole (.text text)

variable (library : SettingsLibrary)

/-- The values that the library takes for an answer: the built-in ones that answer, and objects as
it reads them. -/
inductive TakesFor : GivenValue → Bool → Prop where
  | builtIn {value : GivenValue} {answer : Bool}
      (builtIn : value.IsBuiltIn)
      (answers : SettingsBoolean.Answers value answer) :
      TakesFor value answer
  | object {object : Foreign Datum} {answer : Bool}
      (read : library.readBoolean (.whole (.object object)) = .ok answer) :
      TakesFor (.whole (.object object)) answer

/-- The values that name something: whole texts, which are the name, and objects as the library
reads them. -/
inductive Names : GivenValue → String → Prop where
  | text (name : String) : Names (.whole (.text name)) name
  | object {object : Foreign Datum} {name : String}
      (read : library.readText (.whole (.object object)) = .ok name) :
      Names (.whole (.object object)) name

variable {library}

theorem isBuiltIn_or_object (value : GivenValue) :
    value.IsBuiltIn ∨ ∃ object, value = .whole (.object object) := by
  cases value with
  | torn text => exact .inl fun object same => by contradiction
  | whole value =>
    cases value with
    | object object => exact .inr ⟨object, rfl⟩
    | _ => exact .inl fun object same => by cases same

theorem Documented.readBoolean_eq_ok_iff
    (documented : library.Documented)
    (value : GivenValue)
    (answer : Bool) :
    library.readBoolean value = .ok answer ↔ library.TakesFor value answer := by
  rcases isBuiltIn_or_object value with builtIn | ⟨object, rfl⟩
  · rw [documented.answers value builtIn]
    constructor
    · exact .builtIn builtIn
    · rintro (⟨-, answers⟩ | _)
      · exact answers
      · exact absurd rfl (builtIn _)
  · constructor
    · exact .object
    · rintro (⟨builtIn, -⟩ | read)
      · exact absurd rfl (builtIn object)
      · exact read

theorem Documented.readText_eq_ok_iff
    (documented : library.Documented)
    (value : GivenValue)
    (name : String) :
    library.readText value = .ok name ↔ library.Names value name := by
  rcases isBuiltIn_or_object value with builtIn | ⟨object, rfl⟩
  · rw [documented.texts value builtIn]
    constructor
    · rintro rfl
      exact .text name
    · rintro (_ | _)
      · rfl
      · exact absurd rfl (builtIn _)
  · constructor
    · exact .object
    · rintro (_ | read)
      exact read

end SettingsLibrary

end Attachments
