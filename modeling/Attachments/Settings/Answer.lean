import Attachments.Settings.Given

/-!
Contract: answers to a yes-or-no question.

Owns:
- the words of the two answers;
- the built-in values that answer, each with its answer.

Does not own: which questions are asked, and what is wrong with other values.
-/

namespace Attachments

def GivenValue.IsBuiltIn (value : GivenValue) : Prop :=
  ∀ object, value ≠ .whole (.object object)

namespace SettingsBoolean

/-- The words that mean no. -/
def noWords : List String :=
  ["0", "off", "f", "false", "n", "no"]

def yesWords : List String :=
  ["1", "on", "t", "true", "y", "yes"]

def words (answer : Bool) : List String :=
  if answer then yesWords else noWords

/-- The values that answer a yes-or-no question, each with its answer: the truth values, the numbers
zero and one, and words, in which letters may have either case. -/
inductive Answers : GivenValue → Bool → Prop where
  | bool (answer : Bool) : Answers (.whole (.bool answer)) answer
  | int (answer : Bool) : Answers (.whole (.int (if answer then 1 else 0))) answer
  | real {answer : Bool} {value : Numeral.Double}
      (same : value.amount = if answer then (Numeral.wholeTicks 1 : Int) else 0) :
      Answers (.whole (.real value)) answer
  | word {answer : Bool} {text : String} (known : text.map Char.toLower ∈ words answer) :
      Answers (.whole (.text text)) answer

end SettingsBoolean

end Attachments
