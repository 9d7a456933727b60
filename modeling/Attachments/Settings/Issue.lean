import Attachments.Datum.Literal
import Attachments.Fault
import Attachments.Level
import Attachments.Settings.Given

/-!
Contract: what is wrong with the value of a setting.

Owns:
- the kinds of issues, their codes and their reports;
- why settings could not be loaded.

Does not own: which values are accepted.
-/

namespace Attachments

/-- Why the value of a setting was not accepted. -/
inductive IssueKind where
  | unknownBoolean
  | notBoolean
  | unknownLevel
  | notText
  | tornText
  | unknownChoice (choices : List String)
  | unwritable (reason : String)
  deriving DecidableEq, Repr

namespace IssueKind

def code : IssueKind → String
  | .unknownBoolean => "bool_parsing"
  | .notBoolean => "bool_type"
  | .unknownLevel => "value_error"
  | .notText => "string_type"
  | .tornText => "string_unicode"
  | .unknownChoice _ => "literal_error"
  | .unwritable _ => "value_error"

def message : IssueKind → String
  | .unknownBoolean => "Input should be a valid boolean, unable to interpret input"
  | .notBoolean => "Input should be a valid boolean"
  | .unknownLevel =>
    "Value error, log_level must be one of "
      ++ (Datum.list (Level.sortedNames.map .text)).literal
  | .notText => "Input should be a valid string"
  | .tornText =>
    "Input should be a valid string, unable to parse raw data as a unicode string"
  | .unknownChoice choices =>
    "Input should be " ++ " or ".intercalate (choices.map Text.quote)
  | .unwritable reason => "Value error, " ++ reason

end IssueKind

/-- An issue with one value: where it was given, from the outside in, and the value. -/
structure Issue where
  kind : IssueKind
  location : List String
  input : GivenValue

/-- The reports of all issues in one text. -/
def Issue.messages (issues : List Issue) : String :=
  "; ".intercalate (issues.map (·.kind.message))

/-- Why settings could not be loaded: their sources could not be searched, or values in them were
not accepted. -/
inductive SettingsFailure where
  | fault (fault : Fault)
  | issues (issues : List Issue)

/-- An outcome that can fail by a fault alone. -/
def SettingsFailure.ofFault {Value : Type} : Except Fault Value → Except SettingsFailure Value
  | .ok value => .ok value
  | .error cause => .error (.fault cause)

end Attachments
