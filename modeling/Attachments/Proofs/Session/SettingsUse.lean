import Attachments.Proofs.Event.Library
import Attachments.Proofs.Session.Step
import Attachments.Proofs.Settings.Documented

/-!
Contract: how single steps use the kept settings of a session.

Owns:
- which steps use which of the two caches, and that no step uses both;
- what the steps that ask for settings report and leave;
- that a reader stands in its slot until another one is put there.

Does not own: what the caches hold after a run.
-/

namespace Attachments

namespace Step

/-- What a step does with the kept settings of identifier reading. Settings that are given with the
step leave them alone. -/
def legacyUse : Step → CacheUse
  | .showLegacySettings => .shown
  | .clearLegacySettings => .cleared
  | .createReader _ none => .taken
  | _ => .untouched

/-- What a step does with the kept settings of logging. -/
def logUse : Step → CacheUse
  | .showLogSettings => .shown
  | .clearLogSettings => .cleared
  | .configure none => .taken
  | _ => .untouched

def readerSlot? : Step → Option String
  | .createReader slot _ => some slot
  | .makeReader slot _ => some slot
  | _ => none

/-- No step uses both caches. -/
theorem legacyUse_or_logUse (step : Step) :
    step.legacyUse = .untouched ∨ step.logUse = .untouched := by
  cases step with
  | showLogSettings => exact .inl rfl
  | clearLogSettings => exact .inl rfl
  | configure settings => exact .inl rfl
  | _ => exact .inr rfl

end Step

namespace Session

/-- The kept settings of identifier reading, with the mark of those shown last. -/
def legacyView (session : Session) : CacheView LegacySettings :=
  ⟨session.legacyCache, session.legacyShown⟩

/-- The kept settings of logging, with the mark of those shown last. -/
def logView (session : Session) : CacheView LogSettings :=
  ⟨session.logCache, session.logShown⟩

variable (libraries : Libraries) (time : String) (session : Session)

/-! ## One step -/

theorem step_legacyView (step : Step) :
    (session.step libraries time step).2.legacyView =
      session.legacyView.after (session.loadLegacy libraries []) step.legacyUse := by
  have outside (untouched : step.changes .legacySettings = false) :
      (session.step libraries time step).2.legacyView = session.legacyView := by
    obtain ⟨cache, shown⟩ := session.step_frame libraries time untouched
    rw [legacyView, cache, shown]
    rfl
  cases step with
  | showLegacySettings =>
    rw [Session.step, showLegacySettings_snd]
    rfl
  | clearLegacySettings => rfl
  | createReader name settings =>
    cases settings with
    | some named => exact outside rfl
    | none =>
      obtain ⟨_, later⟩ := session.createReader_snd libraries time name none
      rw [Session.step, later, chosenLegacy_snd]
      rfl
  | _ => exact outside rfl

theorem step_logView (step : Step) :
    (session.step libraries time step).2.logView =
      session.logView.after (session.loadLog libraries []) step.logUse := by
  have outside (untouched : step.changes .logSettings = false) :
      (session.step libraries time step).2.logView = session.logView := by
    obtain ⟨cache, shown⟩ := session.step_frame libraries time untouched
    rw [logView, cache, shown]
    rfl
  cases step with
  | showLogSettings =>
    rw [Session.step, showLogSettings_snd]
    rfl
  | clearLogSettings => rfl
  | configure settings =>
    cases settings with
    | some named => exact outside rfl
    | none =>
      obtain ⟨_, later⟩ := session.configure_snd libraries none
      rw [Session.step, later, chosenLog_snd]
      rfl
  | _ => exact outside rfl

/-- The settings file takes no part in the settings of logging. -/
theorem loadLog_eq (documented : libraries.settings.Documented) :
    session.loadLog libraries [] =
      LogSettings.load libraries.settings ⟨[], session.environment, none⟩ := by
  have noOption (file : Option String) :
      SettingsOrigins.HasNoOption libraries.settings ⟨[], session.environment, file⟩ :=
    List.forall_mem_nil _
  obtain ⟨found, searched, finds⟩ :=
    documented.finds LogSettings.group (by decide) _ (noOption session.file)
  obtain ⟨other, searchedOther, findsOther⟩ :=
    documented.finds LogSettings.group (by decide) _ (noOption none)
  have same (setting : Setting) (member : setting ∈ LogSettings.group.settings) :
      found setting = other setting :=
    (finds setting member).trans (findsOther setting member).symm
  simp only [loadLog, LogSettings.load, searched, searchedOther,
    same LogSettings.levelSetting (by decide), same LogSettings.environmentSetting (by decide)]

/-! ## What is reported -/

/-- The outcome of a step that shows kept settings. -/
def shownOutcome {Settings : Type}
    (result : Settings → Bool → Result)
    (shown : Option Nat) :
    Except SettingsFailure (Loaded Settings) → Except StepFailure Result
  | .ok loaded => .ok (result loaded.settings (decide (shown = some loaded.serial)))
  | .error failure => .error (.settings failure)

theorem showLegacySettings_outcome :
    (session.showLegacySettings libraries).1.outcome =
      shownOutcome .legacySettings session.legacyShown
        (session.legacyCache.get (session.loadLegacy libraries [])).1 := by
  unfold showLegacySettings
  rw [keptLegacy_eq]
  cases (session.legacyCache.get (session.loadLegacy libraries [])).1 <;> rfl

theorem showLogSettings_outcome :
    (session.showLogSettings libraries).1.outcome =
      shownOutcome .logSettings session.logShown
        (session.logCache.get (session.loadLog libraries [])).1 := by
  unfold showLogSettings
  rw [keptLog_eq]
  cases (session.logCache.get (session.loadLog libraries [])).1 <;> rfl

/-- Settings that could not be chosen leave the session as it was. -/
theorem chosenLegacy_of_error
    {settings : Option (Fields String Datum)}
    {failure : SettingsFailure}
    (failed : (session.chosenLegacy libraries settings).1 = .error failure) :
    (session.chosenLegacy libraries settings).2 = session := by
  cases settings with
  | some named => rfl
  | none =>
    rcases outcome : session.legacyCache.get (session.loadLegacy libraries []) with
      ⟨_ | loaded, after⟩
    · rw [chosenLegacy_snd, outcome, Cache.get_of_error outcome]
    · rw [chosenLegacy, keptLegacy_eq, outcome] at failed
      contradiction

theorem chosenLog_of_error
    {settings : Option (Fields String Datum)}
    {failure : SettingsFailure}
    (failed : (session.chosenLog libraries settings).1 = .error failure) :
    (session.chosenLog libraries settings).2 = session := by
  cases settings with
  | some named => rfl
  | none =>
    rcases outcome : session.logCache.get (session.loadLog libraries []) with ⟨_ | loaded, after⟩
    · rw [chosenLog_snd, outcome, Cache.get_of_error outcome]
    · rw [chosenLog, keptLog_eq, outcome] at failed
      contradiction

/-- The event of the call that logs the creation of a reader. -/
def creationEvent (allowLegacy : Bool) : Event :=
  [("logger", .ofText creationLogger), ("allow_legacy", .value (.bool allowLegacy)),
    ("event", .ofText "attachment_id_parser_created")]

/-- The same event as it is written. -/
def creationLine (allowLegacy : Bool) : Event :=
  [("logger", .ofText creationLogger), ("allow_legacy", .value (.bool allowLegacy)),
    ("event", .ofText "attachment_id_parser_created"), ("level", .ofText "info"),
    ("timestamp", .ofText time)]

section Creation

variable {library : LogLibrary} (documented : library.Documented)
include documented

/-- Nothing in the event is sensitive, and it asks for no report. -/
theorem dressed_creationEvent (allowLegacy : Bool) :
    (creationEvent allowLegacy).dressed library [] .info time none =
      .ok (creationLine time allowLegacy) := by
  have nothing : Event.visited library.order [] = [] := by
    rw [Event.visited, List.map_nil, (documented.visitsOnce []).eq_nil]
    rfl
  have unmasked : ((creationEvent allowLegacy).stamped .info time).redacted =
      creationLine time allowLegacy := by
    cases allowLegacy <;> rfl
  rw [Event.dressed, documented.gathered_eq, nothing]
  exact (congrArg (library.reportException none) unmasked).trans (documented.unasked none _ rfl)

theorem write_creationLine (profile : Profile) (allowLegacy : Bool) :
    ∃ text, profile.write library (creationLine time allowLegacy) = .ok text := by
  unfold Profile.write
  cases profile.format with
  | json =>
    rw [documented.dumps]
    cases allowLegacy <;> exact ⟨_, rfl⟩
  | console =>
    apply documented.shows
    intro field member
    simp only [creationLine, List.mem_cons, List.not_mem_nil, or_false] at member
    rcases member with rfl | rfl | rfl | rfl | rfl <;>
      exact ⟨by simp, by simp, _, rfl, rfl⟩

/-- The creation of a reader is logged without a fault where there are no context variables. -/
theorem emit_creationCall_ok (configuration : Configuration) (allowLegacy : Bool) :
    ∃ emission, (Logger.create library configuration (.text creationLogger)).emit library
      configuration [] time (creationCall allowLegacy) = .ok emission := by
  have event : (creationCall allowLegacy).event [("logger", .value (.text creationLogger))] =
      .ok (creationEvent allowLegacy) := by
    cases allowLegacy <;> rfl
  have follows : (Logger.create library configuration (.text creationLogger)).followed library
      configuration = configuration :=
    documented.binds configuration
  cases configuration with
  | usual =>
    refine ⟨.passedOn .info (creationEvent allowLegacy), ?_⟩
    rw [Logger.emit, follows]
    simp only [Logger.create, event]
    rfl
  | made profile =>
    rw [Logger.emit_of_follows follows, Profile.emit]
    split
    · obtain ⟨text, written⟩ := write_creationLine time documented profile allowLegacy
      have dressed : (creationEvent allowLegacy).dressed library []
          (creationCall allowLegacy).method.level time (creationCall allowLegacy).handled? = _ :=
        dressed_creationEvent time documented allowLegacy
      refine ⟨.printed text, ?_⟩
      simp only [Logger.create, event, bind, Except.bind, dressed, written]
    · cases allowLegacy <;> exact ⟨_, rfl⟩

end Creation

/-- What a step made of a reader whose policy was settled: it stands in its slot, or the context
variables kept its creation from being logged. -/
def Created
    (name : String)
    (allowLegacy : Bool)
    (before : Session)
    (outcome : Except StepFailure Result)
    (after : Session) :
    Prop :=
  (outcome = .ok (.policy (.bool allowLegacy)) ∧
      after.readers = before.readers.put name ⟨.bool allowLegacy⟩) ∨
    (before.context ≠ [] ∧ (∃ fault, outcome = .error (.fault fault)) ∧
      after.readers = before.readers)

theorem createReader_created
    (documented : libraries.logging.Documented)
    (name : String)
    {settings : Option (Fields String Datum)}
    {chosen : LegacySettings}
    (given : (session.chosenLegacy libraries settings).1 = .ok chosen) :
    Created name chosen.allowLegacy session
      (session.createReader libraries time name settings).1.outcome
      (session.createReader libraries time name settings).2 := by
  have later := session.chosenLegacy_snd libraries settings
  unfold createReader
  rcases chosenEq : session.chosenLegacy libraries settings with ⟨_ | kept, after⟩
  · rw [chosenEq] at given
    contradiction
  · rw [chosenEq] at given later
    obtain rfl := Except.ok.inj given
    obtain rfl := later
    dsimp only
    split
    next fault failed =>
      refine .inr ⟨fun noContext => ?_, ⟨fault, rfl⟩, rfl⟩
      obtain ⟨emission, logged⟩ :=
        emit_creationCall_ok time documented session.configuration kept.allowLegacy
      rw [← noContext, failed] at logged
      contradiction
    next => exact .inl ⟨rfl, rfl⟩

/-- The creation of a reader fills its slot, if it does anything to readers. -/
theorem createReader_readers (name : String) (settings : Option (Fields String Datum)) :
    (session.createReader libraries time name settings).2.readers = session.readers ∨
      ∃ reader, (session.createReader libraries time name settings).2.readers =
        session.readers.put name reader := by
  have later := session.chosenLegacy_snd libraries settings
  unfold createReader
  rcases chosen : session.chosenLegacy libraries settings with ⟨_ | kept, after⟩
  · rw [chosen] at later
    obtain rfl := later
    exact .inl rfl
  · rw [chosen] at later
    obtain rfl := later
    dsimp only
    split
    · exact .inl rfl
    · exact .inr ⟨_, rfl⟩

theorem createReader_refused
    (name : String)
    {settings : Option (Fields String Datum)}
    {failure : SettingsFailure}
    (failed : (session.chosenLegacy libraries settings).1 = .error failure) :
    (session.createReader libraries time name settings).1.outcome = .error (.settings failure) ∧
      (session.createReader libraries time name settings).2 = session := by
  have unchanged := session.chosenLegacy_of_error libraries failed
  unfold createReader
  rcases chosenEq : session.chosenLegacy libraries settings with ⟨other | _, after⟩
  · rw [chosenEq] at failed unchanged
    exact ⟨congrArg (Except.error ∘ StepFailure.settings) (Except.error.inj failed), unchanged⟩
  · rw [chosenEq] at failed
    contradiction

theorem configure_configured
    {settings : Option (Fields String Datum)}
    {chosen : LogSettings}
    (given : (session.chosenLog libraries settings).1 = .ok chosen) :
    (session.configure libraries settings).1.outcome = .ok .configured ∧
      (session.configure libraries settings).2.configuration = .made (.ofSettings chosen) := by
  unfold configure
  rcases chosenEq : session.chosenLog libraries settings with ⟨_ | kept, after⟩
  · rw [chosenEq] at given
    contradiction
  · rw [chosenEq] at given
    obtain rfl := Except.ok.inj given
    exact ⟨rfl, rfl⟩

theorem configure_refused
    {settings : Option (Fields String Datum)}
    {failure : SettingsFailure}
    (failed : (session.chosenLog libraries settings).1 = .error failure) :
    (session.configure libraries settings).1.outcome = .error (.settings failure) ∧
      (session.configure libraries settings).2 = session := by
  have unchanged := session.chosenLog_of_error libraries failed
  unfold configure
  rcases chosenEq : session.chosenLog libraries settings with ⟨other | _, after⟩
  · rw [chosenEq] at failed unchanged
    exact ⟨congrArg (Except.error ∘ StepFailure.settings) (Except.error.inj failed), unchanged⟩
  · rw [chosenEq] at failed
    contradiction

/-- A reader stands in its slot until another one is put there. -/
theorem step_readers_of_other
    {step : Step}
    {name : String}
    (other : step.readerSlot? ≠ some name) :
    (session.step libraries time step).2.readers.get? name = session.readers.get? name := by
  have outside (untouched : step.changes .readers = false) :
      (session.step libraries time step).2.readers.get? name = session.readers.get? name :=
    congrArg (Fields.get? · name) (session.step_frame libraries time untouched)
  cases step with
  | createReader slot settings =>
    have different : slot ≠ name := fun same => other (congrArg some same)
    rw [Session.step]
    rcases session.createReader_readers libraries time slot settings with same | ⟨reader, put⟩
    · rw [same]
    · rw [put, Fields.get?_put_other _ _ different]
  | makeReader slot policy =>
    have different : slot ≠ name := fun same => other (congrArg some same)
    exact Fields.get?_put_other session.readers ⟨policy⟩ different
  | _ => exact outside rfl

end Session

end Attachments
