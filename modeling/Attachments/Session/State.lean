import Attachments.Event.Logger
import Attachments.Reader.Basic
import Attachments.Settings.Cache
import Attachments.Settings.Legacy

/-!
Contract: what a session holds between its steps.

Owns:
- the libraries that are used;
- the environment and the settings file, the kept settings, the configuration of logging;
- the named identifiers, readers and loggers, and the index keyed by identifiers.

Does not own: the steps.
-/

namespace Attachments

/-- The libraries that a session runs on. -/
structure Libraries where
  logging : LogLibrary
  settings : SettingsLibrary

/-- The state of a session. -/
structure Session where
  environment : Environment
  file : Option String
  legacyCache : Cache LegacySettings
  legacyShown : Option Nat
  logCache : Cache LogSettings
  logShown : Option Nat
  configuration : Configuration
  context : Event
  identifiers : Fields String Identifier
  readers : Fields String Reader
  loggers : Fields String Logger
  index : Fields Identifier Datum

namespace Session

/-- The session before its first step, with the given environment and settings file. -/
def start (environment : Environment) (file : Option String) : Session where
  environment := environment
  file := file
  legacyCache := .empty
  legacyShown := none
  logCache := .empty
  logShown := none
  configuration := .usual
  context := []
  identifiers := []
  readers := []
  loggers := []
  index := []

section Settings

variable (libraries : Libraries) (session : Session)

/-- The settings of identifier reading, as they would be loaded now. -/
def loadLegacy (named : Fields String Datum) : Except SettingsFailure LegacySettings :=
  LegacySettings.load libraries.settings ⟨named, session.environment, session.file⟩

/-- The settings of logging, as they would be loaded now. -/
def loadLog (named : Fields String Datum) : Except SettingsFailure LogSettings :=
  LogSettings.load libraries.settings ⟨named, session.environment, session.file⟩

/-- The kept settings of identifier reading, loaded now if none are kept. -/
def keptLegacy : Except SettingsFailure (Loaded LegacySettings) × Session :=
  let (outcome, cache) := session.legacyCache.get (loadLegacy libraries session [])
  (outcome, { session with legacyCache := cache })

/-- The kept settings of logging, loaded now if none are kept. -/
def keptLog : Except SettingsFailure (Loaded LogSettings) × Session :=
  let (outcome, cache) := session.logCache.get (loadLog libraries session [])
  (outcome, { session with logCache := cache })

end Settings

end Session

end Attachments
