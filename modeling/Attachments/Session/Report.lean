import Attachments.Event.Profile
import Attachments.Identifier.Operand
import Attachments.Reader.Basic
import Attachments.Settings.Legacy

/-!
Contract: what a step of a session reports.

Owns:
- results and failures of steps;
- reports, which add what the journal and the log received.

Does not own: how reports are shown.
-/

namespace Attachments

/-- The result of a step. Settings come with whether they are the very ones shown last. -/
inductive Result where
  | nothing
  | legacySettings (settings : LegacySettings) (sameObject : Bool)
  | logSettings (settings : LogSettings) (sameObject : Bool)
  | policy (allowLegacy : Datum)
  | identifier (identifier : Identifier)
  | batch (batch : Batch)
  | compared (left right : Operand)
  | size (size : Nat)
  | found (value : Option Datum)
  | listing (entries : List (Identifier × Datum))
  | configured

/-- Why a step failed. -/
inductive StepFailure where
  | rejected (rejection : Rejection)
  | fault (fault : Fault)
  | settings (failure : SettingsFailure)

def StepFailure.ofFailure : Failure → StepFailure
  | .rejected cause => .rejected cause
  | .fault cause => .fault cause

/-- What a step reports: its result or failure, what the journal received, and, of a step that
logs, what came of it. -/
structure Report where
  outcome : Except StepFailure Result
  journal : Journal
  emission : Option Emission

namespace Report

/-- The report of a step that neither reads nor logs. -/
def plain (outcome : Except StepFailure Result) : Report :=
  ⟨outcome, [], none⟩

/-- The report of a step without a result. -/
def done : Report :=
  plain (.ok .nothing)

/-- The report of a step that failed without reading or logging. -/
def failed (failure : StepFailure) : Report :=
  plain (.error failure)

end Report

end Attachments
