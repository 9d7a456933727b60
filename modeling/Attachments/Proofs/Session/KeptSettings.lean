import Attachments.Proofs.Session.SettingsUse
import Attachments.Proofs.Settings.Sources

/-!
Contract: the kept settings of a session through its runs.

Owns:
- the timelines of the two caches, with the loads that the environment and the settings file would
  bring before each step;
- what the steps that ask for kept settings show and go by, said by these timelines;
- what leaves a cache alone, and that readers keep the policy they were made with.

Does not own: what a single step does, and what a timeline says.
-/

namespace Attachments

namespace Session

variable (libraries : Libraries) (time : String) (session : Session)

/-! ## Runs -/

/-- What each step of a run does with a cache. -/
def usesOf (use : Step → CacheUse) (steps : List Step) (moment : Nat) : CacheUse :=
  (steps[moment]?.map use).getD .untouched

theorem usesOf_eq
    {use : Step → CacheUse}
    {steps : List Step}
    {moment : Nat}
    {step : Step}
    (found : steps[moment]? = some step) :
    usesOf use steps moment = use step := by
  rw [usesOf, found]
  rfl

/-- A cache that is empty at first and changes with every step as its use says has a timeline. -/
theorem timeline_of_step {Settings : Type}
    (view : Session → CacheView Settings)
    (load : Session → Except SettingsFailure Settings)
    (use : Step → CacheUse)
    (start : view session = ⟨.empty, none⟩)
    (next : ∀ session step,
      view (Session.step libraries time session step).2 =
        (view session).after (load session) (use step))
    (steps : List Step) :
    Timeline (usesOf use steps)
      (fun moment => load (session.reached libraries time steps moment))
      (fun moment => view (session.reached libraries time steps moment)) where
  start := start
  next := fun moment => by
    -- Behind the last step nothing happens any more, which counts as a moment without a use.
    cases found : steps[moment]? with
    | none => rw [reached_succ_of_none libraries time session found, usesOf, found, Option.map_none,
        Option.getD_none, CacheView.after]
    | some step => rw [reached_succ libraries time session found, next, usesOf_eq found]

theorem reached_readers_of_other
    {steps : List Step}
    {name : String}
    {first last : Nat}
    (ordered : first ≤ last)
    (other : ∀ moment, first ≤ moment → moment < last →
      ∀ step, steps[moment]? = some step → step.readerSlot? ≠ some name) :
    (session.reached libraries time steps last).readers.get? name =
      (session.reached libraries time steps first).readers.get? name := by
  induction ordered with
  | refl => rfl
  | @step last ordered inductionHypothesis =>
    have before := inductionHypothesis fun moment after sooner =>
      other moment after (Nat.lt_succ_of_lt sooner)
    rw [← before]
    cases found : steps[last]? with
    | none => rw [reached_succ_of_none libraries time session found]
    | some step =>
      rw [reached_succ libraries time session found]
      exact step_readers_of_other libraries time _
        (other last ordered (Nat.lt_succ_self last) step found)

/-! ## The whole run -/

section Whole

variable (steps : List Step)

/-- The settings of identifier reading that a load would bring before each step of a run. -/
def legacyLoads (moment : Nat) : Except SettingsFailure LegacySettings :=
  LegacySettings.load libraries.settings
    ⟨[], (session.reached libraries time steps moment).environment,
      (session.reached libraries time steps moment).file⟩

/-- The settings of logging that a load would bring before each step of a run. -/
def logLoads (moment : Nat) : Except SettingsFailure LogSettings :=
  LogSettings.load libraries.settings
    ⟨[], (session.reached libraries time steps moment).environment, none⟩

/-- The kept settings of identifier reading answer to their history when they are asked for. -/
def LegacyAsked (moment : Nat) : Except SettingsFailure LegacySettings → Prop :=
  Asked (usesOf Step.legacyUse steps) (session.legacyLoads libraries time steps)
    (fun moment => (session.reached libraries time steps moment).legacyView) moment

/-- The kept settings of logging answer to their history when they are asked for. -/
def LogAsked (moment : Nat) : Except SettingsFailure LogSettings → Prop :=
  Asked (usesOf Step.logUse steps) (session.logLoads libraries time steps)
    (fun moment => (session.reached libraries time steps moment).logView) moment

/-- How a step of a run ended. -/
def outcomeAt (moment : Nat) : Option (Except StepFailure Result) :=
  (session.run libraries time steps).1[moment]?.map Report.outcome

end Whole

/-- A step shows settings and whether they were shown before, or the failure to get them. -/
def ShownAs {Settings : Type}
    (result : Settings → Bool → Result)
    (again : Prop)
    (reported : Option (Except StepFailure Result)) :
    Except SettingsFailure Settings → Prop
  | .ok settings =>
    ∃ same, (same = true ↔ again) ∧ reported = some (.ok (result settings same))
  | .error failure => reported = some (.error (.settings failure))

/-- What a step that creates a reader makes of the settings it goes by. -/
def CreatedAs
    (name : String)
    (before after : Session)
    (reported : Option (Except StepFailure Result)) :
    Except SettingsFailure LegacySettings → Prop
  | .ok settings =>
    ∃ outcome, reported = some outcome ∧
      Created name settings.allowLegacy before outcome after
  | .error failure => reported = some (.error (.settings failure)) ∧ after = before

/-- What a step that configures logging makes of the settings it goes by. -/
def ConfiguredAs
    (before after : Session)
    (reported : Option (Except StepFailure Result)) :
    Except SettingsFailure LogSettings → Prop
  | .ok settings =>
    reported = some (.ok .configured) ∧ after.configuration = .made (.ofSettings settings)
  | .error failure => reported = some (.error (.settings failure)) ∧ after = before

/-- What a run makes of kept settings: what the steps show and go by, what leaves a cache alone, and
what stays. The first four fields are about the steps that ask for kept settings, which are given
what the history calls for and nothing else (`GivenAt.unique`), and the next two about those that
come with settings of their own. -/
structure KeepsSettings
    (libraries : Libraries)
    (time : String)
    (session : Session)
    (steps : List Step) :
    Prop where
  showsLegacy : ∀ moment, steps[moment]? = some .showLegacySettings →
    ∃ given, session.LegacyAsked libraries time steps moment given ∧
      ShownAs .legacySettings
        (ShownSince (usesOf Step.legacyUse steps) (session.legacyLoads libraries time steps) moment)
        (session.outcomeAt libraries time steps moment) given
  showsLog : ∀ moment, steps[moment]? = some .showLogSettings →
    ∃ given, session.LogAsked libraries time steps moment given ∧
      ShownAs .logSettings
        (ShownSince (usesOf Step.logUse steps) (session.logLoads libraries time steps) moment)
        (session.outcomeAt libraries time steps moment) given
  creates : ∀ moment name, steps[moment]? = some (.createReader name none) →
    ∃ given, session.LegacyAsked libraries time steps moment given ∧
      CreatedAs name (session.reached libraries time steps moment)
        (session.reached libraries time steps (moment + 1))
        (session.outcomeAt libraries time steps moment) given
  configures : ∀ moment, steps[moment]? = some (.configure none) →
    ∃ given, session.LogAsked libraries time steps moment given ∧
      ConfiguredAs (session.reached libraries time steps moment)
        (session.reached libraries time steps (moment + 1))
        (session.outcomeAt libraries time steps moment) given
  createsFrom : ∀ moment name named, steps[moment]? = some (.createReader name (some named)) →
    usesOf Step.legacyUse steps moment = .untouched ∧
      usesOf Step.logUse steps moment = .untouched ∧
      CreatedAs name (session.reached libraries time steps moment)
        (session.reached libraries time steps (moment + 1))
        (session.outcomeAt libraries time steps moment)
        ((session.reached libraries time steps moment).loadLegacy libraries named)
  configuresFrom : ∀ moment named, steps[moment]? = some (.configure (some named)) →
    usesOf Step.legacyUse steps moment = .untouched ∧
      usesOf Step.logUse steps moment = .untouched ∧
      ConfiguredAs (session.reached libraries time steps moment)
        (session.reached libraries time steps (moment + 1))
        (session.outcomeAt libraries time steps moment)
        ((session.reached libraries time steps moment).loadLog libraries named)
  apart : ∀ moment,
    usesOf Step.legacyUse steps moment = .untouched ∨ usesOf Step.logUse steps moment = .untouched
  legacyUntouched : ∀ moment, usesOf Step.legacyUse steps moment = .untouched →
    (session.reached libraries time steps (moment + 1)).legacyView =
      (session.reached libraries time steps moment).legacyView
  logUntouched : ∀ moment, usesOf Step.logUse steps moment = .untouched →
    (session.reached libraries time steps (moment + 1)).logView =
      (session.reached libraries time steps moment).logView
  legacyStays : ∀ first last, first ≤ last → ∀ loaded,
    (session.reached libraries time steps first).legacyCache.kept = some loaded →
    (∀ moment, first ≤ moment → moment < last →
      usesOf Step.legacyUse steps moment ≠ .cleared) →
    (session.reached libraries time steps last).legacyCache.kept = some loaded
  logStays : ∀ first last, first ≤ last → ∀ loaded,
    (session.reached libraries time steps first).logCache.kept = some loaded →
    (∀ moment, first ≤ moment → moment < last →
      usesOf Step.logUse steps moment ≠ .cleared) →
    (session.reached libraries time steps last).logCache.kept = some loaded
  readersStay : ∀ first last, first ≤ last → ∀ name,
    (∀ moment, first ≤ moment → moment < last →
      ∀ step, steps[moment]? = some step → step.readerSlot? ≠ some name) →
    (session.reached libraries time steps last).readers.get? name =
      (session.reached libraries time steps first).readers.get? name

theorem outcomeAt_eq
    {steps : List Step}
    {moment : Nat}
    {step : Step}
    (found : steps[moment]? = some step) :
    session.outcomeAt libraries time steps moment =
      some ((session.reached libraries time steps moment).step libraries time step).1.outcome := by
  rw [outcomeAt, report_at libraries time session found]
  rfl

theorem shownAs_of_asked {Settings : Type}
    {use : Nat → CacheUse}
    {load : Nat → Except SettingsFailure Settings}
    {view : Nat → CacheView Settings}
    (timeline : Timeline use load view)
    (result : Settings → Bool → Result)
    (moment : Nat) :
    ShownAs result (ShownSince use load moment)
      (some (shownOutcome result (view moment).shown ((view moment).cache.get (load moment)).1))
      (((view moment).cache.get (load moment)).1.map Loaded.settings) := by
  cases given : ((view moment).cache.get (load moment)).1 with
  | error failure => rfl
  | ok loaded =>
    refine ⟨decide ((view moment).shown = some loaded.serial), ?_, rfl⟩
    rw [decide_eq_true_iff]
    exact (timeline.tells moment).2.same_iff given

theorem createdAs_of_chosen
    (documented : libraries.logging.Documented)
    (name : String)
    (settings : Option (Fields String Datum)) :
    CreatedAs name session (session.createReader libraries time name settings).2
      (some (session.createReader libraries time name settings).1.outcome)
      (session.chosenLegacy libraries settings).1 := by
  cases chosen : (session.chosenLegacy libraries settings).1 with
  | ok given => exact ⟨_, rfl, session.createReader_created libraries time documented name chosen⟩
  | error failure =>
    obtain ⟨reported, unchanged⟩ := session.createReader_refused libraries time name chosen
    exact ⟨congrArg some reported, unchanged⟩

theorem configuredAs_of_chosen (settings : Option (Fields String Datum)) :
    ConfiguredAs session (session.configure libraries settings).2
      (some (session.configure libraries settings).1.outcome)
      (session.chosenLog libraries settings).1 := by
  cases chosen : (session.chosenLog libraries settings).1 with
  | ok given =>
    obtain ⟨reported, configuration⟩ := session.configure_configured libraries chosen
    exact ⟨congrArg some reported, configuration⟩
  | error failure =>
    obtain ⟨reported, unchanged⟩ := session.configure_refused libraries chosen
    exact ⟨congrArg some reported, unchanged⟩

theorem usesOf_apart (steps : List Step) (moment : Nat) :
    usesOf Step.legacyUse steps moment = .untouched ∨
      usesOf Step.logUse steps moment = .untouched := by
  cases found : steps[moment]? with
  | none => exact .inl (by rw [usesOf, found]; rfl)
  | some step =>
    rw [usesOf_eq found, usesOf_eq found]
    exact step.legacyUse_or_logUse

theorem legacy_timeline (environment : Environment) (file : Option String) (steps : List Step) :
    Timeline (usesOf Step.legacyUse steps)
      ((start environment file).legacyLoads libraries time steps)
      (fun moment => ((start environment file).reached libraries time steps moment).legacyView) :=
  timeline_of_step libraries time _ legacyView (loadLegacy libraries · []) Step.legacyUse rfl
    (step_legacyView libraries time) steps

end Session

/-- Both libraries behave as documented. -/
structure Libraries.Documented (libraries : Libraries) : Prop where
  logging : libraries.logging.Documented
  settings : libraries.settings.Documented

namespace Session

section Documented

variable {libraries : Libraries} (documented : libraries.Documented) (time : String)
include documented

theorem log_timeline (environment : Environment) (file : Option String) (steps : List Step) :
    Timeline (usesOf Step.logUse steps)
      ((start environment file).logLoads libraries time steps)
      (fun moment => ((start environment file).reached libraries time steps moment).logView) := by
  refine timeline_of_step libraries time _ logView
    (fun session => LogSettings.load libraries.settings ⟨[], session.environment, none⟩)
    Step.logUse rfl ?_ steps
  intro session step
  rw [step_logView, loadLog_eq libraries session documented.settings]

/-- Through every run, whatever else it does to the environment and the settings file, a step that
asks for kept settings goes by those of the first successful load since its cache was cleared, and
by the failure of its own load if there was none, which nothing keeps. Settings count as the same as
those shown before until the clear. Steps with settings of their own leave both caches alone, no
step uses both, and a reader keeps its policy as long as it stands in its slot. -/
theorem settings_kept (environment : Environment) (file : Option String) (steps : List Step) :
    KeepsSettings libraries time (start environment file) steps where
  showsLegacy := by
    intro moment found
    have timeline := legacy_timeline libraries time environment file steps
    refine ⟨_, timeline.asked (by rw [usesOf_eq found]; rfl), ?_⟩
    rw [outcomeAt_eq libraries time _ found, Session.step, showLegacySettings_outcome]
    exact shownAs_of_asked timeline .legacySettings moment
  showsLog := by
    intro moment found
    have timeline := log_timeline documented time environment file steps
    refine ⟨_, timeline.asked (by rw [usesOf_eq found]; rfl), ?_⟩
    rw [outcomeAt_eq libraries time _ found, Session.step, showLogSettings_outcome,
      loadLog_eq libraries _ documented.settings]
    exact shownAs_of_asked timeline .logSettings moment
  creates := by
    intro moment name found
    have timeline := legacy_timeline libraries time environment file steps
    refine ⟨_, timeline.asked (by rw [usesOf_eq found]; rfl), ?_⟩
    rw [outcomeAt_eq libraries time _ found, reached_succ libraries time _ found]
    exact createdAs_of_chosen libraries time _ documented.logging name none
  configures := by
    intro moment found
    have timeline := log_timeline documented time environment file steps
    refine ⟨_, timeline.asked (by rw [usesOf_eq found]; rfl), ?_⟩
    rw [outcomeAt_eq libraries time _ found, reached_succ libraries time _ found, logLoads,
      ← loadLog_eq libraries _ documented.settings]
    exact configuredAs_of_chosen libraries _ none
  createsFrom := by
    intro moment name named found
    refine ⟨usesOf_eq found, usesOf_eq found, ?_⟩
    rw [outcomeAt_eq libraries time _ found, reached_succ libraries time _ found]
    exact createdAs_of_chosen libraries time _ documented.logging name (some named)
  configuresFrom := by
    intro moment named found
    refine ⟨usesOf_eq found, usesOf_eq found, ?_⟩
    rw [outcomeAt_eq libraries time _ found, reached_succ libraries time _ found]
    exact configuredAs_of_chosen libraries _ (some named)
  apart := usesOf_apart steps
  legacyUntouched := by
    intro moment untouched
    rw [(legacy_timeline libraries time environment file steps).next, untouched]
    rfl
  logUntouched := by
    intro moment untouched
    rw [(log_timeline documented time environment file steps).next, untouched]
    rfl
  legacyStays := fun _ _ ordered _ kept keeps =>
    (legacy_timeline libraries time environment file steps).kept_stays ordered kept keeps
  logStays := fun _ _ ordered _ kept keeps =>
    (log_timeline documented time environment file steps).kept_stays ordered kept keeps
  readersStay := fun _ _ ordered _ other =>
    reached_readers_of_other libraries time _ ordered other

end Documented

/-! ## A run -/

section Environment

variable {libraries : Libraries} {time : String} {session : Session}
variable {steps : List Step} {moment : Nat}

theorem reached_environment_of_other
    {step : Step}
    (found : steps[moment]? = some step)
    (outside : step.changes .environment = false) :
    (session.reached libraries time steps (moment + 1)).environment =
      (session.reached libraries time steps moment).environment := by
  rw [reached_succ libraries time session found]
  exact (step_frame libraries time _ outside).1

theorem reached_environment_of_set
    {name value : String}
    {before after : Environment}
    (found : steps[moment]? = some (.setVariable name value))
    (held : (session.reached libraries time steps moment).environment = before)
    (set : before.set name value = .ok after) :
    (session.reached libraries time steps (moment + 1)).environment = after := by
  rw [reached_succ libraries time session found, Session.step, setVariable, held, set]

end Environment

theorem outcome_of_new {Settings : Type}
    {result : Settings → Bool → Result}
    {again : Prop}
    {reported : Option (Except StepFailure Result)}
    {settings : Settings}
    (shown : ShownAs result again reported (.ok settings))
    (new : ¬ again) :
    reported = some (.ok (result settings false)) := by
  obtain ⟨same, sameIff, report⟩ := shown
  have isNew : same = false := Bool.eq_false_iff.mpr fun repeated => new (sameIff.mp repeated)
  rwa [isNew] at report

/-- Steps that ask for settings while the first load fails, a later one is kept through a change of
the environment, and a clear makes room for a new one. -/
def renewing : List Step :=
  [.configure none, .setVariable "LOG_LEVEL" "ERROR", .configure none,
    .setVariable "LOG_LEVEL" "DEBUG", .showLogSettings, .clearLogSettings, .showLogSettings]

/-- What a load brings before the three of these steps that have to load. -/
theorem logLoads_renewing :
    let libraries : Libraries := ⟨.standard, .standard⟩
    let session := start [("LOG_LEVEL", "LOUD")] none
    session.logLoads libraries "" renewing 0 =
        .error (.issues [⟨.unknownLevel, ["LOG_LEVEL"], .whole (.text "LOUD")⟩]) ∧
      session.logLoads libraries "" renewing 2 = .ok ⟨"ERROR", "development"⟩ ∧
      session.logLoads libraries "" renewing 6 = .ok ⟨"DEBUG", "development"⟩ := by
  intro libraries session
  have first : (session.reached libraries "" renewing 0).environment = [("LOG_LEVEL", "LOUD")] :=
    rfl
  have second : (session.reached libraries "" renewing 2).environment =
      [("LOG_LEVEL", "ERROR")] :=
    reached_environment_of_set rfl (reached_environment_of_other rfl rfl) rfl
  have last : (session.reached libraries "" renewing 6).environment = [("LOG_LEVEL", "DEBUG")] :=
    calc (session.reached libraries "" renewing 6).environment
      _ = (session.reached libraries "" renewing 5).environment :=
        reached_environment_of_other rfl rfl
      _ = (session.reached libraries "" renewing 4).environment :=
        reached_environment_of_other rfl rfl
      _ = [("LOG_LEVEL", "DEBUG")] :=
        reached_environment_of_set rfl ((reached_environment_of_other rfl rfl).trans second) rfl
  refine ⟨?_, ?_, ?_⟩
  · rw [logLoads, first]
    rfl
  · rw [logLoads, second]
    rfl
  · rw [logLoads, last]
    rfl

theorem settings_kept_renewing :
    let libraries : Libraries := ⟨.standard, .standard⟩
    let session := start [("LOG_LEVEL", "LOUD")] none
    let shownAt (moment : Nat) := session.outcomeAt libraries "" renewing moment
    libraries.Documented ∧
      (shownAt 0 = some (.error (.settings
          (.issues [⟨.unknownLevel, ["LOG_LEVEL"], .whole (.text "LOUD")⟩]))) ∧
        session.reached libraries "" renewing 1 = session.reached libraries "" renewing 0) ∧
      shownAt 4 = some (.ok (.logSettings ⟨"ERROR", "development"⟩ false)) ∧
      shownAt 6 = some (.ok (.logSettings ⟨"DEBUG", "development"⟩ false)) := by
  intro libraries session shownAt
  have documented : libraries.Documented :=
    ⟨LogLibrary.standard_documented, SettingsLibrary.standard_documented⟩
  have keeps : KeepsSettings libraries "" session renewing := settings_kept documented "" _ _ _
  obtain ⟨refused, error, debug⟩ := logLoads_renewing
  refine ⟨documented, ?failed, ?kept, ?renewed⟩
  case failed =>
    have nothing : NothingLoaded (usesOf Step.logUse renewing)
        (session.logLoads libraries "" renewing) 0 :=
      fun earlier impossible => absurd impossible (Nat.not_lt_zero earlier)
    have failure : GivenAt (usesOf Step.logUse renewing) (session.logLoads libraries "" renewing) 0
        (.error (.issues [⟨.unknownLevel, ["LOG_LEVEL"], .whole (.text "LOUD")⟩])) :=
      ⟨nothing, refused⟩
    obtain ⟨given, asked, configured⟩ := keeps.configures 0 rfl
    obtain rfl := asked.given.unique failure
    exact configured
  case kept =>
    have before : ∀ moment < 2, (usesOf Step.logUse renewing moment).asks = true →
        moment = 0 := by
      decide
    have quiet : ∀ moment < 4, usesOf Step.logUse renewing moment ≠ .shown := by decide
    have uncleared : ∀ moment < 5, usesOf Step.logUse renewing moment ≠ .cleared := by decide
    have given : GivenAt (usesOf Step.logUse renewing) (session.logLoads libraries "" renewing) 4
        (.ok ⟨"ERROR", "development"⟩) := by
      refine ⟨2, by decide, ⟨rfl, error⟩, ?_, ?_⟩
      · rintro ⟨moment, -, sooner, clears⟩
        exact uncleared moment sooner clears
      · intro earlier sooner other loads
        obtain rfl := before earlier sooner loads.1
        exact nomatch refused.symm.trans loads.2
    obtain ⟨outcome, asked, shown⟩ := keeps.showsLog 4 rfl
    obtain rfl := asked.given.unique given
    refine outcome_of_new shown ?_
    rintro ⟨moment, sooner, shows, -⟩
    exact quiet moment sooner shows
  case renewed =>
    have asking : ∀ moment < 6, (usesOf Step.logUse renewing moment).asks = true →
        moment < 5 := by
      decide
    have cleared (earlier : Nat) (sooner : earlier < 5) :
        ClearedBetween (usesOf Step.logUse renewing) earlier 6 :=
      ⟨5, sooner, by decide, rfl⟩
    have given : GivenAt (usesOf Step.logUse renewing) (session.logLoads libraries "" renewing) 6
        (.ok ⟨"DEBUG", "development"⟩) := by
      refine ⟨6, by decide, ⟨rfl, debug⟩, not_clearedBetween_self, ?_⟩
      intro earlier sooner other loads
      exact cleared earlier (asking earlier sooner loads.1)
    obtain ⟨outcome, asked, shown⟩ := keeps.showsLog 6 rfl
    obtain rfl := asked.given.unique given
    refine outcome_of_new shown ?_
    rintro ⟨moment, sooner, shows, -, keepsSince⟩
    have asks : (usesOf Step.logUse renewing moment).asks = true := by rw [shows]; rfl
    exact keepsSince (cleared moment (asking moment sooner asks))

end Session

end Attachments
