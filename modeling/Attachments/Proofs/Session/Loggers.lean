import Attachments.Proofs.Event.LoggerHistory
import Attachments.Proofs.Session.SettingsUse
import Attachments.Proofs.Settings.Sources

/-!
Contract: which configuration the log calls of a run follow.

Owns:
- the configurations that the steps of a run bring, and the calls that they make through a logger;
- the loggers that a run holds, and what each step does to them;
- that every call is reported as the configuration makes it that governs it, whatever else the run
  does.

Does not own: what a configuration makes of a call.
-/

namespace Attachments

def Step.call? : Step → Option (String × Call)
  | .log slot method message arguments fields handled? =>
    match FieldRecipe.makeAll fields with
    | .ok named => some (slot, ⟨method, message, arguments, named, handled?⟩)
    | .error _ => none
  | _ => none

namespace Session

/-- The report of a call that went through a logger. -/
def loggedReport (session : Session) : Except Fault Emission → Report
  | .error fault => ⟨.error (.fault fault), [], session.failedEmission⟩
  | .ok emission => ⟨.ok .nothing, [], some emission⟩

/-- The configuration that a step brings, if it configures logging with settings that load. -/
def broughtBy (libraries : Libraries) (session : Session) : Step → Option Profile
  | .configure settings =>
    match (session.chosenLog libraries settings).1 with
    | .ok chosen => some (.ofSettings chosen)
    | .error _ => none
  | _ => none

variable (libraries : Libraries) (time : String) (session : Session)

/-! ## One step -/

/-- A step that brings a configuration leaves it in force, and no other step changes the one that
is. -/
theorem step_configuration (step : Step) :
    (session.step libraries time step).2.configuration =
      ((session.broughtBy libraries step).map .made).getD session.configuration := by
  have outside (untouched : step.changes .configuration = false) :
      (session.step libraries time step).2.configuration = session.configuration :=
    session.step_frame libraries time untouched
  cases step with
  | configure settings =>
    rw [Session.step, broughtBy]
    cases chosen : (session.chosenLog libraries settings).1 with
    | ok given => exact (session.configure_configured libraries chosen).2
    | error failure => rw [(session.configure_refused libraries chosen).2]; rfl
  | _ => exact outside rfl

theorem log_eq
    {slot : String}
    {logger : Logger}
    (held : session.loggers.get? slot = some logger)
    (call : Call) :
    session.log libraries time slot (.ok call) =
      (session.loggedReport
          (logger.emit libraries.logging session.configuration session.context time call),
        { session with
          loggers := session.loggers.put slot
            (logger.settled libraries.logging session.configuration) }) := by
  have found : Session.slot session.loggers slot = .ok logger := by
    rw [Session.slot, held]
  simp only [log, found]
  cases logger.emit libraries.logging session.configuration session.context time call <;> rfl

/-- Nothing is changed for a call without a logger. -/
theorem log_snd_of_missing
    {slot : String}
    (missing : session.loggers.get? slot = none)
    (call : Except Fault Call) :
    (session.log libraries time slot call).2 = session := by
  have notFound : Session.slot session.loggers slot = .error (.unknownName slot) := by
    rw [Session.slot, missing]
  cases call with
  | error fault => rfl
  | ok call => simp only [log, notFound]

/-- A logger stands in its slot as it is while it is neither called nor replaced. -/
theorem step_loggers_of_other
    {step : Step}
    {slot : String}
    (notMade : ∀ name, step ≠ .makeLogger slot name)
    (notCalled : ∀ call, step.call? ≠ some (slot, call)) :
    (session.step libraries time step).2.loggers.get? slot = session.loggers.get? slot := by
  have outside (untouched : step.changes .loggers = false) :
      (session.step libraries time step).2.loggers.get? slot = session.loggers.get? slot :=
    congrArg (Fields.get? · slot) (session.step_frame libraries time untouched)
  cases step with
  | makeLogger other name =>
    have different : other ≠ slot := by
      rintro rfl
      exact notMade name rfl
    exact Fields.get?_put_other session.loggers _ different
  | log other method message arguments fields handled? =>
    rw [Session.step]
    cases made : FieldRecipe.makeAll fields with
    | error fault => rfl
    | ok named =>
      have different : other ≠ slot := by
        rintro rfl
        exact notCalled _ (by rw [Step.call?, made])
      cases held : session.loggers.get? other with
      | none => rw [session.log_snd_of_missing libraries time held]
      | some logger =>
        rw [Except.map, session.log_eq libraries time held]
        exact Fields.get?_put_other session.loggers _ different
  | _ => exact outside rfl

/-- A step whose call can be made does what the call does. -/
theorem step_eq_log
    {step : Step}
    {slot : String}
    {call : Call}
    (called : step.call? = some (slot, call)) :
    session.step libraries time step = session.log libraries time slot (.ok call) := by
  cases step with
  | log other method message arguments fields handled? =>
    cases made : FieldRecipe.makeAll fields with
    | error fault =>
      rw [Step.call?, made] at called
      contradiction
    | ok named =>
      rw [Step.call?, made] at called
      obtain ⟨rfl, rfl⟩ := Prod.mk.inj (Option.some.inj called)
      rw [Session.step, made]
      rfl
  | _ => contradiction

/-- Only getting a logger fills a slot. -/
theorem step_loggers_of_missing
    {step : Step}
    {slot : String}
    (notMade : ∀ name, step ≠ .makeLogger slot name)
    (missing : session.loggers.get? slot = none) :
    (session.step libraries time step).2.loggers.get? slot = none := by
  by_cases called : ∃ call, step.call? = some (slot, call)
  · obtain ⟨call, calls⟩ := called
    rw [session.step_eq_log libraries time calls, session.log_snd_of_missing libraries time missing]
    exact missing
  · rw [session.step_loggers_of_other libraries time notMade fun call calls => called ⟨call, calls⟩]
    exact missing

/-! ## The run -/

section Run

variable (steps : List Step)

/-- The configuration that each moment of a run brings. -/
def broughtAt (moment : Nat) : Option Profile :=
  steps[moment]?.bind ((session.reached libraries time steps moment).broughtBy libraries)

/-- Where nothing sets a variable, a configuration goes by the settings that are given with it and
by the environment of the start. -/
theorem broughtAt_of_quiet
    {steps : List Step}
    (quiet : ∀ step ∈ steps, step.changes .environment = false)
    {moment : Nat}
    {named : Fields String Datum}
    (found : steps[moment]? = some (.configure (some named)))
    {settings : LogSettings}
    (loaded : session.loadLog libraries named = .ok settings) :
    session.broughtAt libraries time steps moment = some (.ofSettings settings) := by
  obtain ⟨environment, file⟩ := session.reached_frame libraries time quiet moment
  have loadedThen : (session.reached libraries time steps moment).loadLog libraries named =
      .ok settings := by
    rw [loadLog, environment, file]
    exact loaded
  simp only [broughtAt, found, Option.bind_some, broughtBy, chosenLog, loadedThen]

end Run

end Session

/-- The step at a moment calls the logger in a slot. -/
def CallsAt (steps : List Step) (slot : String) (moment : Nat) (call : Call) : Prop :=
  steps[moment]?.bind Step.call? = some (slot, call)

theorem callsAt_iff
    {steps : List Step}
    {slot : String}
    {moment : Nat}
    {step : Step}
    (found : steps[moment]? = some step)
    (call : Call) :
    CallsAt steps slot moment call ↔ step.call? = some (slot, call) := by
  rw [CallsAt, found]
  rfl

/-- Whether the step at a moment calls the logger in a slot. -/
def Called (steps : List Step) (slot : String) (moment : Nat) : Prop :=
  ∃ call, CallsAt steps slot moment call

/-- A logger that was got at one moment still stands in its slot at a later one. -/
structure HeldSince
    (steps : List Step)
    (slot : String)
    (name : Datum)
    (first last : Nat) :
    Prop where
  got : steps[first]? = some (.makeLogger slot name)
  after : first < last
  kept : ∀ moment, first < moment → moment < last →
    ∀ other, steps[moment]? ≠ some (.makeLogger slot other)

theorem HeldSince.succ
    {steps : List Step}
    {slot : String}
    {name : Datum}
    {first last : Nat}
    (held : HeldSince steps slot name first last)
    (notMade : ∀ other, steps[last]? ≠ some (.makeLogger slot other)) :
    HeldSince steps slot name first (last + 1) where
  got := held.got
  after := Nat.lt_succ_of_lt held.after
  kept := by
    intro moment behind before
    rcases Nat.lt_succ_iff_lt_or_eq.mp before with sooner | rfl
    · exact held.kept moment behind sooner
    · exact notMade

namespace Session

section Started

variable (libraries : Libraries) (time : String) (environment : Environment)
variable (file : Option String)
variable {steps : List Step}

theorem inForce_configuration (steps : List Step) (moment : Nat) :
    InForce ((start environment file).broughtAt libraries time steps) moment
      ((start environment file).reached libraries time steps moment).configuration := by
  induction moment with
  | zero => exact .zero
  | succ moment inductionHypothesis =>
    have later := inductionHypothesis.succ
    cases found : steps[moment]? with
    | none =>
      rw [reached_succ_of_none libraries time _ found]
      rw [broughtAt, found] at later
      exact later
    | some step =>
      rw [reached_succ libraries time _ found, step_configuration]
      rw [broughtAt, found] at later
      exact later

/-- Every logger in a slot was got at some moment and stands there since. -/
theorem held_of_stored (steps : List Step) (slot : String) (last : Nat) :
    ((start environment file).reached libraries time steps last).loggers.get? slot = none ∨
      ∃ name first, HeldSince steps slot name first last := by
  induction last with
  | zero => exact .inl rfl
  | succ last inductionHypothesis =>
    by_cases made : ∃ name, steps[last]? = some (.makeLogger slot name)
    · obtain ⟨name, got⟩ := made
      refine .inr ⟨name, last, got, Nat.lt_succ_self last, fun moment behind before => ?_⟩
      omega
    · have notMade (name : Datum) : steps[last]? ≠ some (.makeLogger slot name) :=
        fun got => made ⟨name, got⟩
      rcases inductionHypothesis with missing | ⟨name, first, held⟩
      · left
        cases found : steps[last]? with
        | none =>
          rw [reached_succ_of_none libraries time _ found]
          exact missing
        | some step =>
          rw [reached_succ libraries time _ found]
          refine step_loggers_of_missing libraries time _ (fun name same => ?_) missing
          exact notMade name (found.trans (congrArg some same))
      · exact .inr ⟨name, first, held.succ notMade⟩

variable {libraries} (documented : libraries.logging.Documented)
include documented

/-- A logger that is held stands as the history says. -/
theorem stands_of_held
    {slot : String}
    {name : Datum}
    {first last : Nat}
    (held : HeldSince steps slot name first last) :
    ∃ logger,
      ((start environment file).reached libraries time steps last).loggers.get? slot =
        some logger ∧
      Stands ((start environment file).broughtAt libraries time steps) (Called steps slot) name
        first last logger := by
  obtain ⟨got, after, kept⟩ := held
  induction after with
  | refl =>
    refine ⟨_, ?_, .create documented
      (inForce_configuration libraries time environment file steps first)⟩
    rw [reached_succ libraries time _ got]
    exact Fields.get?_put_same _ _ _
  | @step last after inductionHypothesis =>
    have keptBefore : ∀ moment, first < moment → moment < last →
        ∀ other, steps[moment]? ≠ some (.makeLogger slot other) :=
      fun moment behind before => kept moment behind (Nat.lt_succ_of_lt before)
    obtain ⟨logger, stored, stands⟩ := inductionHypothesis keptBefore
    cases found : steps[last]? with
    | none =>
      have idle : ¬ Called steps slot last := by
        rintro ⟨call, called⟩
        rw [CallsAt, found] at called
        contradiction
      rw [reached_succ_of_none libraries time _ found]
      exact ⟨logger, stored, stands.idle idle⟩
    | some step =>
      rw [reached_succ libraries time _ found]
      by_cases called : Called steps slot last
      · obtain ⟨call, calls⟩ := called
        rw [step_eq_log libraries time _ ((callsAt_iff found call).mp calls),
          log_eq libraries time _ stored]
        refine ⟨_, Fields.get?_put_same _ _ _, ?_⟩
        exact stands.settled documented after ⟨call, calls⟩
          (inForce_configuration libraries time environment file steps last)
      · have notMade (other : Datum) : step ≠ .makeLogger slot other := by
          rintro rfl
          exact kept last after (Nat.lt_succ_self last) other found
        have notCalled (call : Call) : step.call? ≠ some (slot, call) :=
          fun calls => called ⟨call, (callsAt_iff found call).mpr calls⟩
        refine ⟨logger, ?_, stands.idle called⟩
        rw [step_loggers_of_other libraries time _ notMade notCalled]
        exact stored

end Started

/-- How the calls of a run are reported. -/
structure LogsByHistory
    (libraries : Libraries)
    (time : String)
    (session : Session)
    (steps : List Step) :
    Prop where
  /-- A call is reported as the configuration makes it that governs it. -/
  reported : ∀ slot name first last call configuration,
    HeldSince steps slot name first last → CallsAt steps slot last call →
      Governs (session.broughtAt libraries time steps) (Called steps slot) name first last
        configuration →
        (session.run libraries time steps).1[last]? =
          some ((session.reached libraries time steps last).loggedReport
            (call.emissionUnder libraries.logging configuration
              (session.reached libraries time steps last).context time (Logger.boundBy name)))
  /-- A logger that can be called was got at some moment and stands in its slot since. -/
  held : ∀ slot last logger,
    (session.reached libraries time steps last).loggers.get? slot = some logger →
      ∃ name first, HeldSince steps slot name first last
  /-- Every call is governed. -/
  governed : ∀ slot name first last,
    HeldSince steps slot name first last → Called steps slot last →
      ∃ configuration,
        Governs (session.broughtAt libraries time steps) (Called steps slot) name first last
          configuration
  /-- Nothing else governs the call. -/
  alone : ∀ slot name first last configuration other,
    HeldSince steps slot name first last → Called steps slot last →
      Governs (session.broughtAt libraries time steps) (Called steps slot) name first last
        configuration →
        Governs (session.broughtAt libraries time steps) (Called steps slot) name first last other →
          configuration = other
  /-- Once a configuration that was made governs the calls through a logger it goes on, whatever is
  configured later. -/
  lasting : ∀ slot name first last later profile,
    Governs (session.broughtAt libraries time steps) (Called steps slot) name first last
      (.made profile) →
      last ≤ later →
        Governs (session.broughtAt libraries time steps) (Called steps slot) name first later
          (.made profile)
  /-- What is in force at a moment is the last configuration that a step before brought. -/
  current : ∀ moment, InForce (session.broughtAt libraries time steps) moment
    (session.reached libraries time steps moment).configuration

/-- Through every run, whatever else it does, a call through a logger is reported as one
configuration makes it: with a name the one in force when the logger was got, without a name the one
in force at the first call that was made once logging was configured. What is configured later does
not touch them. Until logging is configured the usual configuration is in force. -/
theorem logs_by_history
    {libraries : Libraries}
    (documented : libraries.logging.Documented)
    (time : String)
    (environment : Environment)
    (file : Option String)
    (steps : List Step) :
    LogsByHistory libraries time (start environment file) steps where
  reported := by
    intro slot name first last call configuration held calls governs
    obtain ⟨logger, stored, stands⟩ := stands_of_held time environment file documented held
    have inForce := inForce_configuration libraries time environment file steps last
    have followed := stands.followed_eq documented held.after ⟨call, calls⟩ inForce governs
    obtain ⟨step, found, called⟩ := Option.bind_eq_some_iff.mp calls
    rw [report_at libraries time _ found, step_eq_log libraries time _ called,
      log_eq libraries time _ stored, Logger.emit_eq_emissionUnder, followed, stands.bound_eq]
  held := by
    intro slot last logger stored
    rcases held_of_stored libraries time environment file steps slot last with missing | held
    · rw [missing] at stored
      contradiction
    · exact held
  governed := by
    intro slot name first last held called
    obtain ⟨logger, stored, stands⟩ := stands_of_held time environment file documented held
    have inForce := inForce_configuration libraries time environment file steps last
    exact ⟨_, stands.governed documented held.after called inForce⟩
  alone := by
    intro slot name first last configuration other held called governs otherGoverns
    obtain ⟨logger, stored, stands⟩ := stands_of_held time environment file documented held
    have inForce := inForce_configuration libraries time environment file steps last
    rw [← stands.followed_eq documented held.after called inForce governs,
      stands.followed_eq documented held.after called inForce otherGoverns]
  lasting := fun _ _ _ _ _ _ governs ordered => governs.lasting ordered
  current := inForce_configuration libraries time environment file steps

/-- A call at the severity of information. -/
def greeting : Call :=
  ⟨.info, .text "hello", [], [], none⟩

/-- The step of this call through the logger in a slot. -/
def greet (slot : String) : Step :=
  .log slot .info (.text "hello") [] [] none

/-- Errors only, then everything. A logger without a name is used for the first time in between, and
one with a name is got in between. -/
def reconfigured : List Step :=
  [.makeLogger "unnamed" .null, .configure (some [("log_level", .text "ERROR")]),
    greet "unnamed", .makeLogger "named" (.text "n"),
    .configure (some [("log_level", .text "DEBUG")]), greet "unnamed", greet "named"]

theorem logs_by_history_reconfigured :
    let libraries : Libraries := ⟨.standard, .standard⟩
    let session := start [] none
    let reports := (session.run libraries "" reconfigured).1
    libraries.logging.Documented ∧
      session.broughtAt libraries "" reconfigured 1 = some ⟨40, .console⟩ ∧
      session.broughtAt libraries "" reconfigured 4 = some ⟨10, .console⟩ ∧
      reports[5]?.bind Report.emission = some .silent ∧
      reports[6]?.bind Report.emission = some .silent := by
  intro libraries session reports
  have documented : libraries.logging.Documented := LogLibrary.standard_documented
  have history : LogsByHistory libraries "" session reconfigured :=
    logs_by_history documented "" [] none reconfigured
  have quiet : ∀ step ∈ reconfigured, step.changes .environment = false := by decide
  have errors : session.broughtAt libraries "" reconfigured 1 = some ⟨40, .console⟩ :=
    broughtAt_of_quiet libraries "" session quiet rfl
      (show session.loadLog libraries _ = .ok ⟨"ERROR", "development"⟩ by rfl)
  have everything : session.broughtAt libraries "" reconfigured 4 = some ⟨10, .console⟩ :=
    broughtAt_of_quiet libraries "" session quiet rfl
      (show session.loadLog libraries _ = .ok ⟨"DEBUG", "development"⟩ by rfl)
  -- Up to the second configuration the first one is in force.
  have inForce (moment : Nat) (behind : 1 < moment) (before : moment ≤ 4) :
      InForce (session.broughtAt libraries "" reconfigured) moment (.made ⟨40, .console⟩) := by
    refine .latest behind errors fun other after sooner => ?_
    obtain rfl | rfl : other = 2 ∨ other = 3 := by omega
    · rfl
    · rfl
  have silent (slot : String) (name : Datum) (first last : Nat)
      (held : HeldSince reconfigured slot name first last)
      (calls : CallsAt reconfigured slot last greeting)
      (governs : Governs (session.broughtAt libraries "" reconfigured) (Called reconfigured slot)
        name first last (.made ⟨40, .console⟩)) :
      reports[last]?.bind Report.emission = some .silent := by
    rw [history.reported slot name first last greeting _ held calls governs]
    rfl
  refine ⟨documented, errors, everything, ?unnamed, ?named⟩
  case unnamed =>
    have held : HeldSince reconfigured "unnamed" .null 0 5 := by
      refine ⟨rfl, by decide, fun moment behind before other => ?_⟩
      obtain rfl | rfl | rfl | rfl : moment = 1 ∨ moment = 2 ∨ moment = 3 ∨ moment = 4 := by omega
      all_goals simp [reconfigured, greet]
    have firstUse : FirstUse (session.broughtAt libraries "" reconfigured)
        (Called reconfigured "unnamed") 0 2 ⟨40, .console⟩ := by
      refine ⟨by decide, ⟨greeting, rfl⟩, inForce 2 (by decide) (by decide), ?_⟩
      rintro moment behind before ⟨call, calls⟩
      obtain rfl : moment = 1 := by omega
      exact nomatch calls
    exact silent "unnamed" .null 0 5 held rfl (.unnamed rfl firstUse (by decide))
  case named =>
    have held : HeldSince reconfigured "named" (.text "n") 3 6 := by
      refine ⟨rfl, by decide, fun moment behind before other => ?_⟩
      obtain rfl | rfl : moment = 4 ∨ moment = 5 := by omega
      all_goals simp [reconfigured, greet]
    exact silent "named" (.text "n") 3 6 held rfl
      (.named (fun isNull => by cases isNull) (inForce 3 (by decide) (by decide)))

end Session

end Attachments
