import Attachments.Proofs.Settings.Cache
import Attachments.Session.Run

/-!
Contract: which parts of a session a step can change, and where a run is before each of its steps.

Owns:
- for each kind of step, the later session as the earlier one with a few parts replaced;
- the areas of a session, and that a step leaves alone those it cannot change;
- the session that a run has reached after some of its steps, and the reports by position.

Does not own: what the replaced parts hold.
-/

namespace Attachments

namespace Session

variable (libraries : Libraries) (time : String) (session : Session)

/-! ## One step -/

theorem keptLegacy_eq :
    keptLegacy libraries session =
      ((session.legacyCache.get (loadLegacy libraries session [])).1,
        { session with
          legacyCache := (session.legacyCache.get (loadLegacy libraries session [])).2 }) :=
  rfl

theorem keptLog_eq :
    keptLog libraries session =
      ((session.logCache.get (loadLog libraries session [])).1,
        { session with logCache := (session.logCache.get (loadLog libraries session [])).2 }) :=
  rfl

theorem showLegacySettings_snd :
    (session.showLegacySettings libraries).2 =
      { session with
        legacyCache := (session.legacyCache.get (loadLegacy libraries session [])).2
        legacyShown := Cache.markShown session.legacyShown
          (session.legacyCache.get (loadLegacy libraries session [])).1 } := by
  unfold showLegacySettings
  rw [keptLegacy_eq]
  cases (session.legacyCache.get (loadLegacy libraries session [])).1 <;> rfl

theorem showLogSettings_snd :
    (session.showLogSettings libraries).2 =
      { session with
        logCache := (session.logCache.get (loadLog libraries session [])).2
        logShown := Cache.markShown session.logShown
          (session.logCache.get (loadLog libraries session [])).1 } := by
  unfold showLogSettings
  rw [keptLog_eq]
  cases (session.logCache.get (loadLog libraries session [])).1 <;> rfl

/-- Settings that are chosen by name leave the session alone. -/
theorem chosenLegacy_snd (settings : Option (Fields String Datum)) :
    (session.chosenLegacy libraries settings).2 =
      { session with
        legacyCache := match settings with
          | some _ => session.legacyCache
          | none => (session.legacyCache.get (loadLegacy libraries session [])).2 } := by
  cases settings <;> rfl

theorem chosenLog_snd (settings : Option (Fields String Datum)) :
    (session.chosenLog libraries settings).2 =
      { session with
        logCache := match settings with
          | some _ => session.logCache
          | none => (session.logCache.get (loadLog libraries session [])).2 } := by
  cases settings <;> rfl

/-- Besides the settings it chooses, the creation of a reader changes readers only. -/
theorem createReader_snd (name : String) (settings : Option (Fields String Datum)) :
    ∃ readers, (session.createReader libraries time name settings).2 =
      { (session.chosenLegacy libraries settings).2 with readers := readers } := by
  unfold createReader
  split
  next later chosen => exact ⟨later.readers, by rw [chosen]⟩
  next later chosen =>
    rw [chosen]
    dsimp only
    split
    · exact ⟨later.readers, rfl⟩
    · exact ⟨_, rfl⟩

/-- Besides the settings it chooses, a configuration changes nothing but itself. -/
theorem configure_snd (settings : Option (Fields String Datum)) :
    ∃ configuration, (session.configure libraries settings).2 =
      { (session.chosenLog libraries settings).2 with configuration := configuration } := by
  unfold configure
  split
  next later chosen => exact ⟨later.configuration, by rw [chosen]⟩
  next chosen =>
    rw [chosen]
    exact ⟨_, rfl⟩

theorem keepIdentifier_snd (name : String) (made : Except Failure Identifier) :
    (session.keepIdentifier name made).2 =
      { session with
        identifiers := match made with
          | .ok identifier => session.identifiers.put name identifier
          | .error _ => session.identifiers } := by
  cases made <;> rfl

/-- What a reader reads goes into a slot if one is named for it. -/
theorem read_snd (name : String) (value : Datum) (target : Option String) :
    ∃ identifiers, (session.read name value target).2 =
      { session with identifiers := identifiers } := by
  unfold read
  split
  · exact ⟨session.identifiers, rfl⟩
  · split
    · exact ⟨session.identifiers, rfl⟩
    · exact ⟨_, rfl⟩

theorem store_snd (name : String) (value : Datum) :
    ∃ index, (session.store name value).2 = { session with index := index } := by
  unfold store
  split
  · exact ⟨session.index, rfl⟩
  · exact ⟨_, rfl⟩

theorem log_snd (name : String) (call : Except Fault Call) :
    ∃ loggers, (log libraries time session name call).2 = { session with loggers := loggers } := by
  unfold log
  split
  · exact ⟨session.loggers, rfl⟩
  · split
    · exact ⟨session.loggers, rfl⟩
    · dsimp only
      split <;> exact ⟨_, rfl⟩

theorem bindContext_snd (fields : List (Datum × Datum)) :
    ∃ context, (session.bindContext fields).2 = { session with context := context } := by
  unfold bindContext
  split
  · exact ⟨session.context, rfl⟩
  · exact ⟨_, rfl⟩

theorem setVariable_snd (name value : String) :
    ∃ environment, (session.setVariable name value).2 =
      { session with environment := environment } := by
  unfold setVariable
  split
  · exact ⟨session.environment, rfl⟩
  · exact ⟨_, rfl⟩

/-! ## What a step leaves alone -/

/-- The areas of a session. Kept settings come with the mark of those shown last, and the settings
file belongs to the environment. -/
inductive Area where
  | environment
  | legacySettings
  | logSettings
  | configuration
  | context
  | identifiers
  | readers
  | loggers
  | index

/-- Whether two sessions hold the same in an area. -/
def SameIn (left right : Session) : Area → Prop
  | .environment => left.environment = right.environment ∧ left.file = right.file
  | .legacySettings =>
    left.legacyCache = right.legacyCache ∧ left.legacyShown = right.legacyShown
  | .logSettings => left.logCache = right.logCache ∧ left.logShown = right.logShown
  | .configuration => left.configuration = right.configuration
  | .context => left.context = right.context
  | .identifiers => left.identifiers = right.identifiers
  | .readers => left.readers = right.readers
  | .loggers => left.loggers = right.loggers
  | .index => left.index = right.index

theorem sameIn_refl (area : Area) : session.SameIn session area := by
  cases area <;> simp [SameIn]

theorem SameIn.trans
    {first second third : Session}
    {area : Area}
    (same : first.SameIn second area)
    (next : second.SameIn third area) :
    first.SameIn third area := by
  cases area <;> simp_all [SameIn]

end Session

/-- Whether a step can change an area. A reader that is created and a configuration ask for kept
settings only if none are given. -/
def Step.changes : Step → Session.Area → Bool
  | .setVariable .., .environment => true
  | .unsetVariable .., .environment => true
  | .writeFile .., .environment => true
  | .showLegacySettings, .legacySettings => true
  | .clearLegacySettings, .legacySettings => true
  | .showLogSettings, .logSettings => true
  | .clearLogSettings, .logSettings => true
  | .createReader _ settings, .legacySettings => settings.isNone
  | .createReader .., .readers => true
  | .makeReader .., .readers => true
  | .read .., .identifiers => true
  | .makeIdentifier .., .identifiers => true
  | .replace .., .identifiers => true
  | .store .., .index => true
  | .configure settings, .logSettings => settings.isNone
  | .configure .., .configuration => true
  | .makeLogger .., .loggers => true
  | .log .., .loggers => true
  | .bindContext .., .context => true
  | .unbindContext .., .context => true
  | .clearContext, .context => true
  | _, _ => false

namespace Session

variable (libraries : Libraries) (time : String) (session : Session)

/-- A step that cannot change an area leaves it alone. -/
theorem step_frame {step : Step} {area : Area} (outside : step.changes area = false) :
    (session.step libraries time step).2.SameIn session area := by
  -- Each step is first said as the session with parts replaced. What is left is to see, area by
  -- area, that these parts stand elsewhere.
  cases step with
  | setVariable name value =>
    obtain ⟨_, later⟩ := session.setVariable_snd name value
    rw [Session.step, later]
    cases area <;> first | contradiction | simp [SameIn]
  | showLegacySettings =>
    rw [Session.step, showLegacySettings_snd]
    cases area <;> first | contradiction | simp [SameIn]
  | showLogSettings =>
    rw [Session.step, showLogSettings_snd]
    cases area <;> first | contradiction | simp [SameIn]
  | createReader name settings =>
    obtain ⟨_, later⟩ := session.createReader_snd libraries time name settings
    rw [Session.step, later, chosenLegacy_snd]
    cases settings <;> cases area <;> first | contradiction | simp [SameIn]
  | read name value target =>
    obtain ⟨_, later⟩ := session.read_snd name value target
    rw [Session.step, later]
    cases area <;> first | contradiction | simp [SameIn]
  | makeIdentifier name spelling =>
    rw [Session.step]
    split
    · exact session.sameIn_refl area
    · exact session.sameIn_refl area
    · rw [keepIdentifier_snd]
      cases area <;> first | contradiction | simp [SameIn]
  | showIdentifier name =>
    rw [Session.step]
    split <;> exact session.sameIn_refl area
  | replace name target changes =>
    rw [Session.step]
    split
    · exact session.sameIn_refl area
    · rw [keepIdentifier_snd]
      cases area <;> first | contradiction | simp [SameIn]
  | store name value =>
    obtain ⟨_, later⟩ := session.store_snd name value
    rw [Session.step, later]
    cases area <;> first | contradiction | simp [SameIn]
  | configure settings =>
    obtain ⟨_, later⟩ := session.configure_snd libraries settings
    rw [Session.step, later, chosenLog_snd]
    cases settings <;> cases area <;> first | contradiction | simp [SameIn]
  | log name method message arguments fields handled? =>
    obtain ⟨_, later⟩ := session.log_snd libraries time name
      ((FieldRecipe.makeAll fields).map fun fields =>
        ⟨method, message, arguments, fields, handled?⟩)
    rw [Session.step, later]
    cases area <;> first | contradiction | simp [SameIn]
  | bindContext fields =>
    obtain ⟨_, later⟩ := session.bindContext_snd fields
    rw [Session.step, later]
    cases area <;> first | contradiction | simp [SameIn]
  | _ => cases area <;> first | contradiction | simp [Session.step, SameIn]

theorem step_identifiers {step : Step} (outside : step.changes .identifiers = false) :
    (session.step libraries time step).2.identifiers = session.identifiers :=
  session.step_frame libraries time outside

theorem step_index {step : Step} (outside : step.changes .index = false) :
    (session.step libraries time step).2.index = session.index :=
  session.step_frame libraries time outside

/-! ## Runs -/

/-- The session that a run has reached when its first `count` steps are done. -/
def reached (steps : List Step) (count : Nat) : Session :=
  (session.run libraries time (steps.take count)).2

theorem run_cons (step : Step) (rest : List Step) :
    session.run libraries time (step :: rest) =
      ((session.step libraries time step).1 ::
          ((session.step libraries time step).2.run libraries time rest).1,
        ((session.step libraries time step).2.run libraries time rest).2) :=
  rfl

theorem run_append (steps later : List Step) :
    session.run libraries time (steps ++ later) =
      ((session.run libraries time steps).1 ++
          ((session.run libraries time steps).2.run libraries time later).1,
        ((session.run libraries time steps).2.run libraries time later).2) := by
  induction steps generalizing session with
  | nil => rfl
  | cons step rest inductionHypothesis =>
    rw [List.cons_append, run_cons, run_cons, inductionHypothesis]
    rfl

theorem reached_cons (step : Step) (rest : List Step) (count : Nat) :
    session.reached libraries time (step :: rest) (count + 1) =
      (session.step libraries time step).2.reached libraries time rest count :=
  rfl

theorem reached_succ {steps : List Step} {position : Nat} {step : Step}
    (found : steps[position]? = some step) :
    session.reached libraries time steps (position + 1) =
      ((session.reached libraries time steps position).step libraries time step).2 := by
  rw [reached, List.take_add_one, found, run_append]
  rfl

/-- Behind the last step a run stays where it is. -/
theorem reached_succ_of_none {steps : List Step} {position : Nat}
    (missing : steps[position]? = none) :
    session.reached libraries time steps (position + 1) =
      session.reached libraries time steps position := by
  rw [reached, List.take_add_one, missing, Option.toList, List.append_nil]
  rfl

/-- What no step of a run can change stays as it was. -/
theorem reached_frame
    {steps : List Step}
    {area : Area}
    (quiet : ∀ step ∈ steps, step.changes area = false)
    (count : Nat) :
    (session.reached libraries time steps count).SameIn session area := by
  induction count with
  | zero => exact session.sameIn_refl area
  | succ count inductionHypothesis =>
    cases found : steps[count]? with
    | none =>
      rw [reached_succ_of_none libraries time session found]
      exact inductionHypothesis
    | some step =>
      rw [reached_succ libraries time session found]
      have outside := quiet step (List.mem_of_getElem? found)
      exact (step_frame libraries time _ outside).trans inductionHypothesis

/-- The report of a step is the one that the step gives where the run is before it. -/
theorem report_at {steps : List Step} {position : Nat} {step : Step}
    (found : steps[position]? = some step) :
    (session.run libraries time steps).1[position]? =
      some ((session.reached libraries time steps position).step libraries time step).1 := by
  induction steps generalizing session position with
  | nil => simp at found
  | cons first rest inductionHypothesis =>
    rw [run_cons]
    cases position with
    | zero =>
      obtain rfl : first = step := by simpa using found
      rfl
    | succ position =>
      rw [List.getElem?_cons_succ] at found ⊢
      rw [reached_cons]
      exact inductionHypothesis _ found

end Session

end Attachments
