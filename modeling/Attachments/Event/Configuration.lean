import Attachments.Level
import Attachments.Settings.Logging

/-!
Contract: configurations of logging.

Owns:
- what settings ask for: the threshold and the format;
- the configuration before any was made.

Does not own: what a configuration makes of a call.
-/

namespace Attachments

/-- How events are written. -/
inductive Format where
  | json
  | console
  deriving DecidableEq, Repr

/-- What a configuration that was made says: the least number of a severity that is shown, and the
format. -/
structure Profile where
  threshold : Nat
  format : Format
  deriving DecidableEq, Repr

namespace Profile

def ofSettings (settings : LogSettings) : Profile :=
  ⟨settings.levelNumber, if settings.useJson then .json else .console⟩

/-- Whether a severity is shown. -/
def shows (profile : Profile) (level : Level) : Bool :=
  decide (profile.threshold ≤ level.number)

end Profile

/-- The configuration of a moment: the usual one of the library of logging, or one that was made. -/
inductive Configuration where
  | usual
  | made (profile : Profile)
  deriving DecidableEq, Repr

/-- Whether the configuration asks that the first use of a logger decide what it follows. Every
configuration that is made does. -/
def Configuration.keepsFirstUse : Configuration → Bool
  | .usual => false
  | .made _ => true

end Attachments
