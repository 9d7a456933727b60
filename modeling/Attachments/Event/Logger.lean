import Attachments.Event.Profile

/-!
Contract: loggers and the configurations they follow.

Owns:
- loggers with and without a name;
- when a logger takes on a configuration, and that it keeps it.

Does not own: how logging is configured.
-/

namespace Attachments

/-- A logger: the values bound to it, and the configuration it follows, once it has taken one on. -/
structure Logger where
  bound : Event
  kept? : Option Configuration

namespace Logger

/-- A new logger under the configuration of the moment. A logger with a name is bound at once; null
is no name, and a logger without a name waits for its first use. -/
def create (library : LogLibrary) (current : Configuration) : Datum → Logger
  | .null => ⟨[], none⟩
  | name => ⟨[("logger", .value name)], some (library.bindsTo current)⟩

/-- The configuration that a call follows, under the configuration of the moment. -/
def followed (library : LogLibrary) (logger : Logger) (current : Configuration) : Configuration :=
  logger.kept?.getD (library.bindsTo current)

/-- The logger after a call, which is its first use if it has not taken on a configuration. -/
def settled (library : LogLibrary) (logger : Logger) (current : Configuration) : Logger :=
  if library.keepsFirst current then
    { logger with kept? := some (logger.followed library current) }
  else logger

/-- What comes of a call. -/
def emit
    (library : LogLibrary)
    (logger : Logger)
    (current : Configuration)
    (context : Event)
    (time : String)
    (call : Call) :
    Except Fault Emission :=
  match logger.followed library current with
  | .made profile => profile.emit library context time logger.bound call
  | .usual => (call.event logger.bound).map (.passedOn call.method.level)

theorem emit_of_follows
    {library : LogLibrary}
    {profile : Profile}
    {logger : Logger}
    {current : Configuration}
    (follows : logger.followed library current = .made profile)
    (context : Event)
    (time : String)
    (call : Call) :
    logger.emit library current context time call =
      profile.emit library context time logger.bound call := by
  rw [emit, follows]

end Logger

end Attachments
