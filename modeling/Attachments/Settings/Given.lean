import Attachments.Datum.Basic
import Attachments.Text.CodePoint

/-!
Contract: values that are given for settings.

Owns:
- whole values, and texts that are torn;
- the value that a text of code points is.

Does not own: where values are given, and which of them are accepted.
-/

namespace Attachments

/-- A value that is given for a setting. Only a file can give a torn text. -/
inductive GivenValue where
  | whole (value : Datum)
  | torn (text : Text.Points)

def GivenValue.ofPoints (text : Text.Points) : GivenValue :=
  match Text.CodePoint.whole? text with
  | some string => .whole (.text string)
  | none => .torn text

end Attachments
