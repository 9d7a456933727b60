import Attachments.Proofs.Settings.Severity
import Attachments.Proofs.Settings.Sources

/-!
Contract: how the settings of logging are made of what the sources give.

Owns:
- settings that are given or have their default, and the complaints about given values;
- which settings are made, which issues are reported, and in which order;
- that loaded settings have the name of a severity and its number.

Does not own: which values are accepted for a setting.
-/

namespace Attachments

namespace LogSettings

/-! ## One setting -/

/-- What a setting holds: what the value means that was given for it, or the default. -/
inductive Settled {Value : Type} (Means : GivenValue → Value → Prop) (default : Value) :
    Option (String × GivenValue) → Value → Prop where
  | absent : Settled Means default none default
  | given {location : String} {value : GivenValue} {held : Value} (means : Means value held) :
    Settled Means default (some (location, value)) held

/-- The complaints about what is given for a setting: none about a value that means something, and
one about any other value, which names the setting and carries the value as it was given. -/
inductive Complaints {Value : Type} (setting : Setting) (Means : GivenValue → Value → Prop)
    (IsCause : GivenValue → IssueKind → Prop) :
    Option (String × GivenValue) → List Issue → Prop where
  | absent : Complaints setting Means IsCause none []
  | accepted {location : String} {value : GivenValue} {held : Value} (means : Means value held) :
    Complaints setting Means IsCause (some (location, value)) []
  | refused
      {location : String} {value : GivenValue} {cause : IssueKind}
      (named : location ∈ setting.keys)
      (meaningless : ∀ held, ¬ Means value held)
      (isCause : IsCause value cause) :
      Complaints setting Means IsCause (some (location, value)) [⟨cause, [location], value⟩]

/-- The values that a reader accepts are those that mean something, and its other answers are the
cause. -/
structure Reads {Value : Type} (read : GivenValue → Except IssueKind Value)
    (Means : GivenValue → Value → Prop) (IsCause : GivenValue → IssueKind → Prop) : Prop where
  accepted (value : GivenValue) (held : Value) : read value = .ok held ↔ Means value held
  refused {value : GivenValue} (meaningless : ∀ held, ¬ Means value held) (cause : IssueKind) :
    read value = .error cause ↔ IsCause value cause

/-- The cause for which a value is refused as a severity. -/
def IsLevelCause (value : GivenValue) (cause : IssueKind) : Prop :=
  cause = levelIssue value

theorem reads_level : Reads levelOf MeansLevel IsLevelCause where
  accepted := levelOf_eq_ok_iff
  refused {value} meaningless cause := by
    constructor
    · exact levelOf_eq_error
    · rintro rfl
      cases reading : levelOf value with
      | ok name => exact absurd ((levelOf_eq_ok_iff value name).mp reading) (meaningless name)
      | error other => rw [levelOf_eq_error reading]

def IsTextCause (library : SettingsLibrary) (value : GivenValue) (cause : IssueKind) : Prop :=
  library.readText value = .error cause

theorem reads_environment {library : SettingsLibrary} (documented : library.Documented) :
    Reads library.readText library.Names (IsTextCause library) where
  accepted := documented.readText_eq_ok_iff
  refused _ _ := Iff.rfl

/-- The issue with a setting, if there is one. -/
def issueOf {Value : Type} : Except Issue Value → List Issue
  | .ok _ => []
  | .error issue => [issue]

section Setting

variable {Value : Type} {read : GivenValue → Except IssueKind Value}
variable {Means : GivenValue → Value → Prop} {IsCause : GivenValue → IssueKind → Prop}
variable (reads : Reads read Means IsCause)
include reads

theorem Reads.settle_eq_ok_iff
    (default : Value)
    (given? : Option (String × GivenValue))
    (held : Value) :
    settle read default given? = .ok held ↔ Settled Means default given? held := by
  cases given? with
  | none =>
    constructor
    · intro settled
      exact Except.ok.inj settled ▸ .absent
    · rintro ⟨⟩
      rfl
  | some found =>
    obtain ⟨location, value⟩ := found
    have meaning : Settled Means default (some (location, value)) held ↔ Means value held := by
      constructor
      · rintro (_ | means)
        exact means
      · exact .given
    rw [meaning, ← reads.accepted, settle]
    cases read value <;> simp

theorem Reads.complaints_iff
    {setting : Setting}
    {given? : Option (String × GivenValue)}
    (named : ∀ found ∈ given?, found.1 ∈ setting.keys)
    (default : Value)
    (issues : List Issue) :
    Complaints setting Means IsCause given? issues ↔
      issues = issueOf (settle read default given?) := by
  cases given? with
  | none =>
    constructor
    · rintro ⟨⟩
      rfl
    · rintro rfl
      exact .absent
  | some found =>
    obtain ⟨location, value⟩ := found
    cases reading : read value with
    | ok held =>
      have means := (reads.accepted value held).mp reading
      have silent : issueOf (settle read default (some (location, value))) = [] := by
        rw [settle, reading, issueOf]
      rw [silent]
      constructor
      · rintro (_ | _ | ⟨-, meaningless, -⟩)
        · rfl
        · exact absurd means (meaningless held)
      · rintro rfl
        exact .accepted means
    | error cause =>
      have meaningless (held : Value) : ¬ Means value held := by
        rw [← reads.accepted, reading]
        exact nofun
      have isCause := (reads.refused meaningless cause).mp reading
      have reported : issueOf (settle read default (some (location, value))) =
          [⟨cause, [location], value⟩] := by
        rw [settle, reading, issueOf]
      rw [reported]
      constructor
      · rintro (_ | means | ⟨-, -, isOther⟩)
        · exact absurd means (meaningless _)
        · obtain rfl := Except.error.inj
            (reading.symm.trans ((reads.refused meaningless _).mpr isOther))
          rfl
      · rintro rfl
        exact .refused (named _ rfl) meaningless isCause

end Setting

/-! ## Both settings -/

/-- What comes of the values that are given for the two settings. -/
structure Judged
    (library : SettingsLibrary)
    (level? environment? : Option (String × GivenValue))
    (outcome : Except SettingsFailure LogSettings) : Prop where
  /-- Settings are made exactly if no given value is refused, and hold what the values mean, or the
  defaults. -/
  made (settings : LogSettings) :
    outcome = .ok settings ↔
      Settled MeansLevel "INFO" level? settings.level ∧
        Settled library.Names "development" environment? settings.environment
  /-- A failure reports all values that are refused and nothing else, that of the severity first. -/
  reported (failure : SettingsFailure) :
    outcome = .error failure ↔
      ∃ first second,
        Complaints levelSetting MeansLevel IsLevelCause level? first ∧
        Complaints environmentSetting library.Names (IsTextCause library) environment? second ∧
        first ++ second ≠ [] ∧
        failure = .issues (first ++ second)

section Judging

variable (library : SettingsLibrary)

theorem ofGiven_eq_ok_iff
    (level? environment? : Option (String × GivenValue))
    (settings : LogSettings) :
    ofGiven library level? environment? = .ok settings ↔
      settle levelOf "INFO" level? = .ok settings.level ∧
        settle library.readText "development" environment? = .ok settings.environment := by
  obtain ⟨level, environment⟩ := settings
  rw [ofGiven, Level.name]
  cases settle levelOf "INFO" level? <;>
    cases settle library.readText "development" environment? <;> simp

theorem ofGiven_eq_error_iff
    (level? environment? : Option (String × GivenValue))
    (issues : List Issue) :
    ofGiven library level? environment? = .error issues ↔
      issues = issueOf (settle levelOf "INFO" level?) ++
          issueOf (settle library.readText "development" environment?) ∧
        issues ≠ [] := by
  rw [ofGiven, Level.name]
  cases settle levelOf "INFO" level? <;>
    cases settle library.readText "development" environment? <;> simp [issueOf] <;> grind

variable {library}
variable (documented : library.Documented)
include documented

theorem judged_of_found
    {origins : SettingsOrigins}
    {found : FoundSettings}
    (searched : library.find group origins = .ok found) :
    Judged library (found levelSetting) (found environmentSetting) (load library origins) := by
  have named := documented.locates group origins found searched
  have environmentReads := reads_environment documented
  have loaded : load library origins =
      (ofGiven library (found levelSetting) (found environmentSetting)).mapError .issues := by
    cases judging : ofGiven library (found levelSetting) (found environmentSetting) <;>
      simp only [load, searched, judging, Except.mapError]
  rw [loaded]
  constructor
  case made =>
    intro settings
    rw [← reads_level.settle_eq_ok_iff, ← environmentReads.settle_eq_ok_iff,
      ← ofGiven_eq_ok_iff]
    cases ofGiven library (found levelSetting) (found environmentSetting) <;>
      simp [Except.mapError]
  case reported =>
    intro failure
    simp only [reads_level.complaints_iff (named levelSetting) "INFO",
      environmentReads.complaints_iff (named environmentSetting) "development"]
    constructor
    · intro failed
      cases judging : ofGiven library (found levelSetting) (found environmentSetting) with
      | ok settings =>
        rw [judging] at failed
        contradiction
      | error issues =>
        obtain ⟨rfl, some⟩ := (ofGiven_eq_error_iff library _ _ _).mp judging
        rw [judging] at failed
        exact ⟨_, _, rfl, rfl, some, (Except.error.inj failed).symm⟩
    · rintro ⟨_, _, rfl, rfl, some, rfl⟩
      rw [(ofGiven_eq_error_iff library _ _ _).mpr ⟨rfl, some⟩]
      rfl

/-- Without options what counts is what is judged. -/
theorem judged_of_hasNoOption
    {origins : SettingsOrigins}
    (noOption : origins.HasNoOption library) :
    Judged library (origins.winning? library group levelSetting)
      (origins.winning? library group environmentSetting) (load library origins) := by
  obtain ⟨found, searched, finds⟩ := documented.finds group (by decide) origins noOption
  have judged := judged_of_found documented searched
  rwa [finds levelSetting (by decide), finds environmentSetting (by decide)] at judged

end Judging

/-! ## Names and numbers -/

/-- The names of the severities with their numbers. -/
def numberedNames : List (String × Nat) :=
  [("DEBUG", 10), ("INFO", 20), ("WARNING", 30), ("ERROR", 40), ("CRITICAL", 50)]

/-- The name of the least severity is one of five, under which its own number stands. -/
structure HasKnownLevel (settings : LogSettings) : Prop where
  numbered : (settings.level, settings.levelNumber) ∈ numberedNames
  stands : Level.numberNamed? settings.level = some settings.levelNumber

theorem hasKnownLevel_of_name
    {settings : LogSettings}
    {level : Level}
    (isName : settings.level = level.name) :
    settings.HasKnownLevel := by
  have number : settings.levelNumber = level.number := by
    rw [levelNumber, isName, Level.numberNamed?_name]
    rfl
  constructor
  case numbered =>
    rw [number, isName]
    cases level <;> decide
  case stands => rw [number, isName, Level.numberNamed?_name]

/-- A severity that is settled is known by its name. -/
theorem exists_name_of_settled
    {given? : Option (String × GivenValue)}
    {name : String}
    (settled : Settled MeansLevel "INFO" given? name) :
    ∃ level : Level, name = level.name := by
  rcases settled with _ | ⟨level, isName, -⟩
  · exact ⟨.info, rfl⟩
  · exact ⟨level, isName⟩

/-- Values given by name, over a variable of the environment that is not looked at. -/
def mixed : SettingsOrigins where
  named := [("log_level", .text "crıtical"), ("environment", .int 3)]
  environment := [("LOG_LEVEL", "loud")]
  file := none

/-- A variable of the environment with a dotless I in its value. -/
def dotless : SettingsOrigins where
  named := []
  environment := [("Log_Level", "ınfo")]
  file := none

/-- An option that has no length. -/
def lengthless : SettingsOrigins where
  named := [("_env_prefix", .int 5)]
  environment := []
  file := none

/-- A path that is written as the name of a severity. -/
def infoPath : Foreign Datum :=
  { Foreign.inert "PosixPath" 0 "INFO" with literal := "PosixPath('INFO')" }

end LogSettings

end Attachments
