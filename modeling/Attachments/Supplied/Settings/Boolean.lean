import Attachments.Settings.Answer
import Attachments.Settings.Issue

/-!
Contract: how answers to a yes-or-no question are read.

Owns:
- which answer a value gives, and what is wrong with a value that gives none.

Does not own: which questions are asked.
-/

namespace Attachments

namespace SettingsBoolean

/-- Reads a boolean from a whole number that fits 64 bits. -/
def readWhole (value : Int) : Except IssueKind Bool :=
  if value = 0 then .ok false else if value = 1 then .ok true else .error .unknownBoolean

/-- Reads a boolean. Words count in any ASCII case and without blanks around them. Numbers count
if they are zero or one; a whole number is worth a look if it fits 64 bits. -/
def read : Datum → Except IssueKind Bool
  | .bool value => .ok value
  | .text word =>
    let word := word.map Char.toLower
    if word ∈ noWords then .ok false
    else if word ∈ yesWords then .ok true
    else .error .unknownBoolean
  | .int value =>
    if -0x8000000000000000 ≤ value ∧ value < 0x8000000000000000 then readWhole value
    else .error .notBoolean
  | .real value =>
    let tick : Int := Numeral.wholeTicks 1
    let whole := value.amount / tick
    if value.amount % tick = 0 ∧ whole.natAbs < 0x8000000000000000 then readWhole whole
    else .error .notBoolean
  | _ => .error .notBoolean

/-- Reads a boolean from a given value. A torn text is not looked into. -/
def readGiven : GivenValue → Except IssueKind Bool
  | .whole value => read value
  | .torn _ => .error .tornText

end SettingsBoolean

end Attachments
