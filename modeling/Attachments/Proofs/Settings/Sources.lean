import Attachments.Proofs.Settings.Answers
import Attachments.Proofs.Settings.Documented
import Attachments.Supplied.Settings.Library

/-!
Contract: the library that loads settings, as it is known, behaves as documented.

Owns:
- that a search without options goes the usual way;
- which variable of a source counts under a label;
- that what is found for a setting is what the first source holds that names it.

Does not own: what the program makes of the values.
-/

namespace Attachments

namespace SettingsOptions

/-- No value that is given by name is an option. -/
def Absent (named : Fields String Datum) : Prop :=
  ∀ name ∈ names, named.has name = false

instance (named : Fields String Datum) : Decidable (Absent named) :=
  inferInstanceAs (Decidable (∀ name ∈ names, named.has name = false))

variable {named : Fields String Datum} (absent : Absent named)
include absent

theorem get?_of_absent (name : String) (isOption : name ∈ names) : named.get? name = none := by
  rw [Fields.get?_eq_none_iff]
  exact absent name isOption

theorem option?_of_absent (name : String) (isOption : name ∈ names) :
    option? named name = none := by
  rw [option?, get?_of_absent absent name isOption]
  rfl

theorem isOn_of_absent (name : String) (isOption : name ∈ names) : isOn named name = false := by
  rw [isOn, option?_of_absent absent name isOption]
  rfl

theorem search_of_absent (leading : Datum) : search leading named = search leading [] := by
  have target := option?_of_absent absent "_env_prefix_target" (by decide)
  have exact := isOn_of_absent absent "_case_sensitive" (by decide)
  have skips := isOn_of_absent absent "_env_ignore_empty" (by decide)
  have null := option?_of_absent absent "_env_parse_none_str" (by decide)
  simp only [search, nullText?, target, exact, skips, null]
  rfl

theorem fileText_of_absent
    (searchesFile : Bool)
    (environment : Environment)
    (file : Option String) :
    fileText searchesFile named environment file = fileText searchesFile [] environment file := by
  have path := get?_of_absent absent "_env_file" (by decide)
  have encoding : encoding named = encoding [] := by
    have noName := option?_of_absent absent "_env_file_encoding" (by decide)
    simp only [SettingsOptions.encoding, noName]
    rfl
  have depth : checkDepth named = checkDepth [] := by
    have noDepth := option?_of_absent absent "_env_file_depth" (by decide)
    simp only [checkDepth, noDepth]
    rfl
  have texts : textAt named file = textAt [] file := by
    funext path
    have texts : reread named = reread [] := by
      funext text
      simp only [reread, encoding]
    simp only [textAt, encoding, depth, texts]
  simp only [fileText, path, texts]
  rfl

end SettingsOptions

namespace SettingsSearch

/-- Where empty variables count, a source holds under a label what the last variable holds whose
name is spelled like it. -/
theorem get?_counted
    {search : SettingsSearch}
    (keepsEmpty : search.skipsEmpty = false)
    (source : Fields Text.Points (Option Text.Points))
    (label : Text.Points) :
    (search.counted source).get? label =
      source.last? fun name => search.spelled name == label := by
  have all : source.filter (fun field => !(search.skipsEmpty && field.2 == some [])) = source := by
    simp [keepsEmpty]
  rw [counted, all, Fields.get?_ofPairs]
  exact (Fields.last?_map (· == label) search.spelled id source).trans Option.map_id'

theorem get?_foundValues
    (search : SettingsSearch)
    (settings : List Setting)
    (source : Fields Text.Points (Option Text.Points))
    (key : String) :
    (search.foundValues settings source).get? (Text.points key) =
      (search.values settings source).get? key :=
  Fields.get?_rename (fun _ _ => Text.CodePoint.points_inj.mp) (search.values settings source) key

/-- Under a name that no further variable takes, a settings file holds what it holds for the
settings. -/
theorem get?_fileValues
    {search : SettingsSearch}
    {settings : List Setting}
    {key : String}
    (free : ∀ found name text, search.isFurther settings found name text = true →
      search.withoutLeading name ≠ Text.points key)
    (source : Fields Text.Points (Option Text.Points)) :
    (search.fileValues settings source).get? (Text.points key) =
      (search.values settings source).get? key := by
  rw [← get?_foundValues, fileValues]
  generalize search.foundValues settings source = found
  -- What is found grows by further variables alone.
  induction search.counted source generalizing found with
  | nil => rfl
  | cons field rest inductionHypothesis =>
    rw [List.foldl_cons, inductionHypothesis]
    split
    · split
      · rename_i further
        exact Fields.get?_put_other found _ (free found _ _ further)
      · rfl
    · rfl

end SettingsSearch

namespace SettingsGroup

def usualSearch (group : SettingsGroup) : SettingsSearch :=
  SettingsOptions.search (.text group.leading) []

def usualRecord (group : SettingsGroup) (origins : SettingsOrigins) :
    Fields Text.Points (Option Text.Points) :=
  (((if group.searchesFile then origins.file.map Text.points else none).map
    (SettingsFile.record origins.environment)).getD [])

/-- The sources where no option is given: the values that are given by name stand before those of
the environment and of the settings file, which are searched as usual. -/
def usualSources (group : SettingsGroup) (origins : SettingsOrigins) : SettingsSources where
  arguments := []
  named := origins.named
  environment := group.usualSearch.environmentValues group.settings origins.environment
  file := group.usualSearch.fileValues group.settings (group.usualRecord origins)

theorem sources_of_absent
    {origins : SettingsOrigins}
    (absent : SettingsOptions.Absent origins.named)
    (group : SettingsGroup) :
    group.sources origins.named origins.environment origins.file =
      .ok (group.usualSources origins) := by
  have noName := absent "__pydantic_self__" (by decide)
  have noOption := SettingsOptions.option?_of_absent absent
  have usual : SettingsOptions.leading group.leading origins.named = .ok (.text group.leading) := by
    rw [SettingsOptions.leading, noOption _ (by decide)]
    rfl
  have noSecrets : SettingsOptions.checkSecrets origins.named origins.environment origins.file =
      .ok () := by
    have noPlace := SettingsOptions.get?_of_absent absent "_secrets_dir" (by decide)
    simp only [SettingsOptions.checkSecrets, noPlace]
    rfl
  have noArguments : SettingsOptions.argumentValues group.settings origins.named = .ok [] := by
    rw [SettingsOptions.argumentValues, noOption _ (by decide)]
    rfl
  unfold sources
  simp only [SettingsOptions.checkNames, noName, SettingsOptions.replacesSources,
    noOption "_build_sources" (by decide), SettingsOptions.checkNesting,
    noOption "_env_nested_max_split" (by decide), usual,
    SettingsOptions.search_of_absent absent, SettingsOptions.fileText_of_absent absent,
    SettingsOptions.fileText_nil, noArguments, noSecrets]
  rfl

/-! ## What a source holds -/

section Held

open SettingsLibrary (loadedGroups)

variable {group : SettingsGroup} (loaded : group ∈ loadedGroups)
variable {setting : Setting} (member : setting ∈ group.settings)
include loaded member

theorem labels_eq :
    group.usualSearch.labels setting =
      setting.keys.map fun key => (key, group.variableName setting) := by
  have each : ∀ group ∈ loadedGroups, ∀ setting ∈ group.settings,
      group.usualSearch.labels setting =
        setting.keys.map fun key => (key, group.variableName setting) := by
    decide
  exact each group loaded setting member

/-- The usual name of a setting stands first, and is its only one unless the settings file is left
out. -/
theorem keys_eq :
    setting.keys = [setting.usualKey] ∧ setting.name = setting.usualKey ∨
      setting.keys = [setting.usualKey, setting.name] ∧ setting.name ≠ setting.usualKey ∧
        group.searchesFile = false := by
  have each : ∀ group ∈ loadedGroups, ∀ setting ∈ group.settings,
      setting.keys = [setting.usualKey] ∧ setting.name = setting.usualKey ∨
        setting.keys = [setting.usualKey, setting.name] ∧ setting.name ≠ setting.usualKey ∧
          group.searchesFile = false := by
    decide
  exact each group loaded setting member

theorem heldFor?_counted (source : Fields Text.Points (Option Text.Points)) :
    group.usualSearch.heldFor? (group.usualSearch.counted source) setting =
      (group.heldText? setting source).map fun text => (setting.usualKey, .ofPoints text) := by
  have held : ((group.usualSearch.counted source).get? (group.variableName setting)).bind id =
      group.heldText? setting source :=
    congrArg (Option.bind · id) (SettingsSearch.get?_counted rfl source _)
  have read (text : Text.Points) : group.usualSearch.read text = .ofPoints text := rfl
  simp only [SettingsSearch.heldFor?, labels_eq loaded member, List.findSome?_map,
    Function.comp_def, held, read]
  rcases keys_eq loaded member with ⟨keys, -⟩ | ⟨keys, -, -⟩ <;> rw [keys] <;>
    cases group.heldText? setting source <;> rfl

/-- A source holds for a setting the text of its variable under the usual name, and nothing under
another one. -/
theorem get?_values (source : Fields Text.Points (Option Text.Points)) :
    (group.usualSearch.values group.settings source).get? setting.usualKey =
        (group.heldText? setting source).map .ofPoints ∧
      (setting.name ≠ setting.usualKey →
        (group.usualSearch.values group.settings source).get? setting.name = none) := by
  have values : group.usualSearch.values group.settings source =
      group.settings.filterMap fun each =>
        (group.heldText? each source).map fun text => (each.usualKey, .ofPoints text) :=
    List.filterMap_congr fun each isMember => heldFor?_counted loaded isMember source
  rw [values]
  rcases List.mem_cons.mp loaded with rfl | logging
  · obtain rfl := List.mem_singleton.mp member
    simp only [LegacySettings.group, List.filterMap_cons, List.filterMap_nil]
    generalize SettingsGroup.heldText? _ _ _ = held
    cases held with
    | none => exact ⟨rfl, fun _ => rfl⟩
    | some text => exact ⟨rfl, fun other => absurd rfl other⟩
  · obtain rfl := List.mem_singleton.mp logging
    have eitherSetting : setting = LogSettings.levelSetting ∨
        setting = LogSettings.environmentSetting := by
      simpa [LogSettings.group] using member
    simp only [LogSettings.group, List.filterMap_cons, List.filterMap_nil]
    rcases eitherSetting with rfl | rfl <;>
      generalize SettingsGroup.heldText? _ LogSettings.levelSetting _ = level <;>
      generalize SettingsGroup.heldText? _ LogSettings.environmentSetting _ = environment <;>
      cases level <;> cases environment <;> exact ⟨rfl, fun _ => rfl⟩

/-- The environment holds the text of the last variable that spells the setting's. -/
theorem get?_environmentValues (origins : SettingsOrigins) :
    (group.usualSearch.environmentValues group.settings origins.environment).get?
        setting.usualKey = origins.environmentValue? group setting := by
  have held := Fields.last?_map (group.spellsVariable setting) Text.points
    (fun text : String => some (Text.points text)) origins.environment
  rw [SettingsSearch.environmentValues, (get?_values loaded member _).1, SettingsGroup.heldText?,
    held, SettingsOrigins.environmentValue?]
  cases origins.environment.last? fun name => group.spellsVariable setting (Text.points name) with
  | none => rfl
  | some text =>
    simp only [Option.map_some, Option.bind_some, id, GivenValue.ofPoints,
      Text.CodePoint.whole?_points]

end Held

/-- No further variable of the settings file stands under the name of the setting. -/
theorem withoutLeading_ne_legacy
    (found : Fields Text.Points GivenValue)
    (name text : Text.Points)
    (further : LegacySettings.group.usualSearch.isFurther LegacySettings.group.settings found name
      text = true) :
    LegacySettings.group.usualSearch.withoutLeading name ≠ Text.points "allow_legacy" := by
  have labels : LegacySettings.group.usualSearch.labels LegacySettings.setting =
      [("allow_legacy", Text.points "attachment_id_allow_legacy")] := by
    rfl
  have settings : LegacySettings.group.settings = [LegacySettings.setting] := rfl
  simp only [SettingsSearch.isFurther, settings, List.any_cons, List.any_nil, labels,
    Bool.and_eq_true, Bool.not_eq_true', Bool.or_false, beq_eq_false_iff_ne] at further
  obtain ⟨⟨-, noName⟩, noVariable⟩ := further
  have noSetting : Text.points "allow_legacy" ≠ name := by
    have leads : LegacySettings.group.usualSearch.leading.truthy = true := by decide
    rw [leads, Bool.true_and] at noName
    exact beq_eq_false_iff_ne.mp noName
  intro same
  rw [SettingsSearch.withoutLeading] at same
  split at same
  · rename_i led
    obtain ⟨rest, whole⟩ := List.isPrefixOf_iff_prefix.mp led
    rw [← whole, List.drop_left] at same
    rw [← whole, same] at noVariable
    exact noVariable rfl
  · exact noSetting same.symm

section Found

open SettingsLibrary (loadedGroups)

variable {group : SettingsGroup} (loaded : group ∈ loadedGroups)
variable {setting : Setting} (member : setting ∈ group.settings)
include loaded member

/-- The settings file holds for a setting what its record holds, if it is searched, and nothing
under a name that is not the usual one. -/
theorem get?_fileValues (origins : SettingsOrigins) :
    (group.usualSources origins).file.get? (Text.points setting.usualKey) =
        origins.fileValue? .standard group setting ∧
      (setting.name ≠ setting.usualKey →
        (group.usualSources origins).file.get? (Text.points setting.name) = none) := by
  rcases List.mem_cons.mp loaded with rfl | logging
  · obtain rfl := List.mem_singleton.mp member
    refine ⟨?_, fun other => absurd rfl other⟩
    have record : LegacySettings.group.usualRecord origins =
        Fields.ofPairs
          (SettingsFile.boundFrom origins.environment [] (origins.lines .standard)) := by
      have searched : LegacySettings.group.searchesFile = true := rfl
      rw [usualRecord, searched, if_pos rfl, SettingsOrigins.lines]
      cases origins.file with
      | none => rfl
      | some text =>
        exact SettingsFile.foldl_eq_ofPairs origins.environment (SettingsFile.bindings _)
    rw [usualSources, record]
    exact (SettingsSearch.get?_fileValues withoutLeading_ne_legacy _).trans
      (get?_values loaded member _).1
  · obtain rfl := List.mem_singleton.mp logging
    have nothing : (LogSettings.group.usualSources origins).file =
        LogSettings.group.usualSearch.foundValues LogSettings.group.settings [] := rfl
    obtain ⟨usual, other⟩ := get?_values loaded member []
    rw [nothing, SettingsSearch.get?_foundValues, SettingsSearch.get?_foundValues, usual]
    exact ⟨rfl, other⟩

/-- Under the usual name of a setting stands what counts for it, and nothing under another one. -/
theorem givenUnder?_eq (origins : SettingsOrigins) :
    (group.usualSources origins).givenUnder? setting setting.usualKey =
        origins.decisive? .standard group setting ∧
      (setting.name ≠ setting.usualKey →
        (group.usualSources origins).givenUnder? setting setting.name = none) := by
  have named : ((group.usualSources origins).givenByName? setting).map GivenValue.whole =
      origins.namedValue? setting := by
    rw [SettingsSources.givenByName?, Option.map_map]
    rfl
  have environment : (group.usualSources origins).environment.get? setting.usualKey =
      origins.environmentValue? group setting :=
    get?_environmentValues loaded member origins
  have noArgument (key : String) : (group.usualSources origins).arguments.get? key = none := rfl
  obtain ⟨file, otherFile⟩ := get?_fileValues loaded member origins
  constructor
  · rw [SettingsSources.givenUnder?, if_pos rfl, noArgument, named, environment, file]
    rfl
  · intro other
    have otherEnvironment : (group.usualSources origins).environment.get? setting.name = none :=
      (get?_values loaded member _).2 other
    rw [SettingsSources.givenUnder?, if_neg other, noArgument, otherEnvironment, otherFile other]
    rfl

/-- Without options the sources give what counts. -/
theorem given?_eq_winning? (origins : SettingsOrigins) :
    (group.usualSources origins).given? setting = origins.winning? .standard group setting := by
  obtain ⟨usual, otherwise⟩ := givenUnder?_eq loaded member origins
  have names : (group.usualSources origins).named = origins.named := rfl
  rw [SettingsSources.given?, SettingsOrigins.winning?, names]
  rcases keys_eq loaded member with ⟨keys, -⟩ | ⟨keys, other, -⟩
  · rw [keys, List.findSome?_cons, List.findSome?_nil, usual]
    cases origins.decisive? .standard group setting <;> rfl
  · rw [keys, List.findSome?_cons, List.findSome?_cons, List.findSome?_nil, usual, otherwise other]
    cases origins.decisive? .standard group setting <;> rfl

end Found

end SettingsGroup

namespace SettingsLibrary

/-- What the sources give is put down to one of the names of the setting. -/
theorem location_mem_keys
    (sources : SettingsSources)
    (setting : Setting) :
    ∀ found ∈ sources.given? setting, found.1 ∈ setting.keys := by
  intro found given
  obtain ⟨key, isKey, located⟩ := List.exists_of_findSome?_eq_some given
  obtain ⟨value, -, rfl⟩ := Option.map_eq_some_iff.mp located
  split
  · exact List.mem_append_right _ (List.mem_singleton_self _)
  · exact isKey

theorem absent_of_hasNoOption
    {origins : SettingsOrigins}
    (noOption : origins.HasNoOption .standard) :
    SettingsOptions.Absent origins.named := by
  intro name isOption
  rw [← Bool.not_eq_true, Fields.has_iff_mem]
  intro given
  obtain ⟨field, member, rfl⟩ := List.mem_map.mp given
  have isNone : (decide (field.1 ∈ SettingsOptions.names)) = false := noOption field member
  exact of_decide_eq_false isNone isOption

theorem readWholeText_eq_ok_iff (value : GivenValue) (text : String) :
    readWholeText value = .ok text ↔ value = .whole (.text text) := by
  cases value with
  | torn points => simp [readWholeText]
  | whole value => cases value <;> simp [readWholeText]

/-- The library as it is known behaves as documented. -/
theorem standard_documented : standard.Documented where
  finds := by
    intro group loaded origins noOption
    have searched := SettingsGroup.sources_of_absent (absent_of_hasNoOption noOption) group
    refine ⟨_, congrArg (Except.map SettingsSources.given?) searched, fun setting member => ?_⟩
    exact SettingsGroup.given?_eq_winning? loaded member origins
  locates := by
    intro group origins found searched setting
    cases given : group.sources origins.named origins.environment origins.file with
    | error failure => simp [standard, given, Except.map] at searched
    | ok sources =>
      have same : sources.given? = found := by simpa [standard, given, Except.map] using searched
      exact same ▸ location_mem_keys sources setting
  answers value builtIn := SettingsBoolean.readGiven_eq_ok_iff builtIn
  texts value _ := readWholeText_eq_ok_iff value

end SettingsLibrary

end Attachments
