import Attachments.Proofs.Settings.Sources

/-!
Contract: which source decides whether legacy identifiers are read.

Owns:
- the settings and failures that the value which counts makes;
- what two sets of sources have to share in order to decide alike: the highest source that names the
  setting, and for the settings file also whatever the setting's value refers to.

Does not own: options, which change how the sources are searched.
-/

namespace Attachments

namespace LegacySettings

/-- Whether a name is a spelling of the setting's variable. -/
abbrev spellsVariable (name : Text.Points) : Bool :=
  group.spellsVariable setting name

/-- The value that counts, if any source names the setting. -/
abbrev decisive? (library : SettingsLibrary) (origins : SettingsOrigins) : Option GivenValue :=
  origins.decisive? library group setting

variable {library : SettingsLibrary} (documented : library.Documented)

/-! ## Loading -/

include documented in
/-- Without options the decisive value alone makes the settings, or the failure. -/
theorem load_of_hasNoOption
    {origins : SettingsOrigins}
    (noOption : origins.HasNoOption library) :
    load library origins =
      match decisive? library origins with
      | none => .ok ⟨true⟩
      | some value =>
        match library.readBoolean value with
        | .ok answer => .ok ⟨answer⟩
        | .error kind => .error (.issues [⟨kind, ["allow_legacy"], value⟩]) := by
  obtain ⟨found, searched, finds⟩ := documented.finds group (by decide) origins noOption
  have given : found setting =
      (decisive? library origins).map fun value => ("allow_legacy", value) := by
    rw [finds setting (List.mem_singleton_self _), SettingsOrigins.winning?]
    have location : (if origins.named.has setting.name then setting.name else setting.usualKey) =
        "allow_legacy" := ite_self _
    rw [location]
  simp only [load, searched, given]
  cases decisive? library origins with
  | none => rfl
  | some value =>
    simp only [Option.map_some, ofGiven]
    cases library.readBoolean value <;> rfl

include documented in
theorem load_eq_ok_iff
    {origins : SettingsOrigins}
    (noOption : origins.HasNoOption library)
    (answer : Bool) :
    load library origins = .ok ⟨answer⟩ ↔
      decisive? library origins = none ∧ answer = true ∨
        ∃ value, decisive? library origins = some value ∧ library.TakesFor value answer := by
  rw [load_of_hasNoOption documented noOption]
  cases decisive? library origins with
  | none => simp [eq_comm]
  | some value =>
    cases read : library.readBoolean value <;>
      simp [← documented.readBoolean_eq_ok_iff, read]

include documented in
theorem load_eq_error_iff
    {origins : SettingsOrigins}
    (noOption : origins.HasNoOption library)
    (failure : SettingsFailure) :
    load library origins = .error failure ↔
      ∃ value kind, decisive? library origins = some value ∧
        library.readBoolean value = .error kind ∧
        failure = .issues [⟨kind, ["allow_legacy"], value⟩] := by
  rw [load_of_hasNoOption documented noOption]
  cases decisive? library origins with
  | none => simp
  | some value => cases read : library.readBoolean value <;> simp [read, eq_comm]

include documented in
theorem exists_error_iff (value : GivenValue) :
    (∃ kind, library.readBoolean value = .error kind) ↔
      ∀ answer, ¬ library.TakesFor value answer := by
  simp only [← documented.readBoolean_eq_ok_iff]
  cases library.readBoolean value <;> simp

/-! ## Sources that decide alike -/

/-- Two sets of sources agree down to the highest source that names the setting. A lower source
counts only if no higher one names the setting, and of a source that counts only the setting's own
fields do. A value in the settings file is made of what it refers to: there the sources also agree
on a closed set of names around the setting's variable. -/
structure SameDown (library : SettingsLibrary) (first second : SettingsOrigins) : Prop where
  named : first.named.filter (fun field => setting.isSpelledBy field.1) =
    second.named.filter (fun field => setting.isSpelledBy field.1)
  environment : first.namedValue? setting = none →
    first.environment.filter (fun field => spellsVariable (Text.points field.1)) =
      second.environment.filter (fun field => spellsVariable (Text.points field.1))
  file : first.namedValue? setting = none → first.environmentValue? group setting = none →
    ∃ related : Text.Points → Bool,
      (∀ name, spellsVariable name = true → related name = true) ∧
      SettingsFile.Closed related (first.lines library) ∧
      SettingsFile.SameVariables related first.environment second.environment ∧
      (first.lines library).filter (fun binding => related binding.name) =
        (second.lines library).filter (fun binding => related binding.name)

variable {first second : SettingsOrigins}

theorem namedValue?_eq_of_same
    (same : first.named.filter (fun field => setting.isSpelledBy field.1) =
      second.named.filter (fun field => setting.isSpelledBy field.1)) :
    first.namedValue? setting = second.namedValue? setting := by
  rw [SettingsOrigins.namedValue?, SettingsOrigins.namedValue?, ← List.head?_filter,
    ← List.head?_filter, same]

theorem environmentValue?_eq_of_same
    (same : first.environment.filter (fun field => spellsVariable (Text.points field.1)) =
      second.environment.filter (fun field => spellsVariable (Text.points field.1))) :
    first.environmentValue? group setting = second.environmentValue? group setting := by
  rw [SettingsOrigins.environmentValue?, SettingsOrigins.environmentValue?, Fields.last?,
    Fields.last?, same]

/-- What a settings file holds for the setting depends on a closed set of names alone. -/
theorem fileValue?_eq_of_same
    {related : Text.Points → Bool}
    (around : ∀ name, spellsVariable name = true → related name = true)
    (closed : SettingsFile.Closed related (first.lines library))
    (sameVariables :
      SettingsFile.SameVariables related first.environment second.environment)
    (sameLines : (first.lines library).filter (fun binding => related binding.name) =
      (second.lines library).filter (fun binding => related binding.name)) :
    first.fileValue? library group setting = second.fileValue? library group setting := by
  have closedToo : SettingsFile.Closed related (second.lines library) := by
    rw [← SettingsFile.closed_filter_iff, sameLines, SettingsFile.closed_filter_iff] at closed
    exact closed
  have sameBound := calc
    (SettingsFile.boundFrom first.environment [] (first.lines library)).filter
        (fun pair => related pair.1)
    _ = SettingsFile.boundFrom second.environment []
          ((first.lines library).filter fun binding => related binding.name) :=
      SettingsFile.filter_boundFrom sameVariables closed fun _ _ => rfl
    _ = SettingsFile.boundFrom second.environment []
          ((second.lines library).filter fun binding => related binding.name) := by rw [sameLines]
    _ = (SettingsFile.boundFrom second.environment [] (second.lines library)).filter
          (fun pair => related pair.1) :=
      (SettingsFile.filter_boundFrom (.refl related _) closedToo fun _ _ => rfl).symm
  rw [SettingsOrigins.fileValue?, SettingsOrigins.fileValue?, SettingsGroup.heldText?,
    SettingsGroup.heldText?, ← Fields.last?_filter around, Fields.filter_ofPairs, sameBound,
    ← Fields.filter_ofPairs, Fields.last?_filter around]

theorem decisive?_eq_of_sameDown (same : SameDown library first second) :
    decisive? library first = decisive? library second := by
  have sameNamed := namedValue?_eq_of_same same.named
  rw [decisive?, decisive?, SettingsOrigins.decisive?, SettingsOrigins.decisive?, ← sameNamed]
  cases named : first.namedValue? setting with
  | some value => rfl
  | none =>
    have sameEnvironment := environmentValue?_eq_of_same (same.environment named)
    rw [← sameEnvironment]
    cases environment : first.environmentValue? group setting with
    | some value => rfl
    | none =>
      obtain ⟨related, around, closed, sameVariables, sameLines⟩ := same.file named environment
      rw [fileValue?_eq_of_same around closed sameVariables sameLines]

/-- How a set of sources decides. -/
structure Decided (library : SettingsLibrary) (origins : SettingsOrigins) : Prop where
  /-- The answer is that of the decisive value, or yes if no source names the setting. -/
  accepted (answer : Bool) :
    load library origins = .ok ⟨answer⟩ ↔
      decisive? library origins = none ∧ answer = true ∨
        ∃ value, decisive? library origins = some value ∧ library.TakesFor value answer
  /-- It fails exactly if the decisive value is taken for no answer. -/
  fails :
    (∃ failure, load library origins = .error failure) ↔
      ∃ value, decisive? library origins = some value ∧ ∀ answer, ¬ library.TakesFor value answer
  /-- A failure is one issue with the setting, and carries the decisive value. -/
  reported (failure : SettingsFailure) :
    load library origins = .error failure →
      ∃ kind value, decisive? library origins = some value ∧
        failure = .issues [⟨kind, ["allow_legacy"], value⟩]
  /-- Sources that agree down to the highest one that names the setting decide alike. -/
  masked (other : SettingsOrigins) :
    other.HasNoOption library → SameDown library origins other →
      load library other = load library origins

include documented in
/-- Without options the highest source that names the setting decides alone. -/
theorem decided_by_highest
    {origins : SettingsOrigins}
    (noOption : origins.HasNoOption library) :
    Decided library origins := by
  constructor
  case accepted => exact load_eq_ok_iff documented noOption
  case fails =>
    constructor
    · rintro ⟨failure, failed⟩
      obtain ⟨value, kind, decisive, unread, -⟩ :=
        (load_eq_error_iff documented noOption failure).mp failed
      exact ⟨value, decisive, (exists_error_iff documented value).mp ⟨kind, unread⟩⟩
    · rintro ⟨value, decisive, noAnswer⟩
      obtain ⟨kind, unread⟩ := (exists_error_iff documented value).mpr noAnswer
      exact ⟨_, (load_eq_error_iff documented noOption _).mpr ⟨value, kind, decisive, unread, rfl⟩⟩
  case reported =>
    intro failure failed
    obtain ⟨value, kind, decisive, -, reported⟩ :=
      (load_eq_error_iff documented noOption failure).mp failed
    exact ⟨kind, value, decisive, reported⟩
  case masked =>
    intro other noOptionThere same
    rw [load_of_hasNoOption documented noOptionThere, load_of_hasNoOption documented noOption,
      decisive?_eq_of_sameDown same]

/-- A settings file in which the setting's variable refers to another one. -/
def referring : SettingsOrigins :=
  ⟨[], [], some "WORD=off\nAttachment_Id_Allow_Legacy=$\x7bWORD\x7d\n"⟩

/-- The same with other names all around, and a line that is no binding. -/
def surrounded : SettingsOrigins where
  named := [("legacy", .bool true)]
  environment := Fields.put [] "ALLOW_LEGACY" "maybe"
  file := some
    "ALLOW_LEGACY=1\nWORD=off\nNOTE='\nAttachment_Id_Allow_Legacy=$\x7bWORD\x7d # $\x7bNOTE\x7d\n"

/-- The variable of the setting and the one that it refers to. -/
def isReferring (name : Text.Points) : Bool :=
  spellsVariable name || name == Text.points "WORD"

/-- A word that means no, in small letters. -/
theorem takesFor_no {text : String} (isWord : text ∈ SettingsBoolean.noWords)
    (small : text.toList.map Char.toLower = text.toList) :
    library.TakesFor (.whole (.text text)) false := by
  refine .builtIn (fun object same => by cases same) (.word ?_)
  rw [SettingsBoolean.map_toLower_eq small]
  exact isWord

theorem decided_by_highest_referring :
    let library := SettingsLibrary.standard
    library.Documented ∧
      referring.HasNoOption library ∧ surrounded.HasNoOption library ∧
      SameDown library referring surrounded ∧
      load library referring = .ok ⟨false⟩ ∧
      load library surrounded = .ok ⟨false⟩ := by
  intro library
  have noOption : referring.HasNoOption library := by decide
  have noOptionThere : surrounded.HasNoOption library := by decide
  have sameDown : SameDown library referring surrounded := by
    refine ⟨by rfl, fun _ => by decide, fun _ _ => ⟨isReferring, ?_, ?_, ?_, ?_⟩⟩
    · intro name spells
      rw [isReferring, spells, Bool.true_or]
    · decide +kernel
    · exact (SettingsFile.SameVariables.refl isReferring []).put (by decide) "maybe"
    · decide +kernel
  have decided : Decided library referring :=
    decided_by_highest SettingsLibrary.standard_documented noOption
  have decisive : decisive? library referring = some (.whole (.text "off")) := by rfl
  have no : library.TakesFor (.whole (.text "off")) false := takesFor_no (by decide) (by decide)
  have loaded := (decided.accepted false).mpr (.inr ⟨_, decisive, no⟩)
  exact ⟨SettingsLibrary.standard_documented, noOption, noOptionThere, sameDown, loaded,
    (decided.masked surrounded noOptionThere sameDown).trans loaded⟩

/-- Other names can matter if they are options or referred to: an option among the values given by
name keeps the settings file from being read, and a variable of the environment changes what a value
in the settings file refers to. -/
theorem load_changed_by_other_names :
    let load (named : Fields String Datum) (environment : Environment) (file : String) :=
      load .standard ⟨named, environment, some file⟩
    (setting.isSpelledBy "_env_file" = false ∧
      load [] [] "ATTACHMENT_ID_ALLOW_LEGACY=false" = .ok ⟨false⟩ ∧
      load [("_env_file", .null)] [] "ATTACHMENT_ID_ALLOW_LEGACY=false" = .ok ⟨true⟩) ∧
    (spellsVariable (Text.points "FOO") = false ∧
      load [] [("FOO", "false")] "ATTACHMENT_ID_ALLOW_LEGACY=$\x7bFOO\x7d" = .ok ⟨false⟩ ∧
      load [] [] "ATTACHMENT_ID_ALLOW_LEGACY=$\x7bFOO\x7d" =
        .error (.issues [⟨.unknownBoolean, ["allow_legacy"], .whole (.text "")⟩])) := by
  have noOption (environment : Environment) (file : String) :
      SettingsOrigins.HasNoOption .standard ⟨[], environment, some file⟩ :=
    List.forall_mem_nil _
  have no : SettingsLibrary.standard.TakesFor (.whole (.text "false")) false :=
    takesFor_no (by decide) (by decide)
  have unknown : SettingsLibrary.standard.readBoolean (.whole (.text "")) =
      .error .unknownBoolean := by
    have small : "".map Char.toLower = "" := SettingsBoolean.map_toLower_eq rfl
    simp only [SettingsLibrary.standard, SettingsBoolean.readGiven, SettingsBoolean.read, small]
    rfl
  refine ⟨⟨by decide, ?_, by rfl⟩, by decide, ?_, ?_⟩
  · exact (load_eq_ok_iff SettingsLibrary.standard_documented
      (noOption [] "ATTACHMENT_ID_ALLOW_LEGACY=false") false).mpr (.inr ⟨_, by rfl, no⟩)
  · exact (load_eq_ok_iff SettingsLibrary.standard_documented
      (noOption [("FOO", "false")] "ATTACHMENT_ID_ALLOW_LEGACY=$\x7bFOO\x7d") false).mpr
      (.inr ⟨_, by rfl, no⟩)
  · exact (load_eq_error_iff SettingsLibrary.standard_documented
      (noOption [] "ATTACHMENT_ID_ALLOW_LEGACY=$\x7bFOO\x7d") _).mpr ⟨_, _, by rfl, unknown, rfl⟩

end LegacySettings

end Attachments
