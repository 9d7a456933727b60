import Attachments.Datum.Dictionary
import Attachments.Problem.Call

/-!
Contract: problems that are still to be made.

Owns:
- arguments that are values or pairs, of which a dictionary is made;
- the order in which the parts of a recipe are made, which decides what is reported.

Does not own: how arguments meet parameters.
-/

namespace Attachments

/-- An argument: a value, or pairs that leave a dictionary. -/
inductive Argument where
  | value (datum : Datum)
  | dictionary (pairs : List (Datum × Datum))

def Argument.make : Argument → Except Fault Datum
  | .value datum => .ok datum
  | .dictionary pairs => (Datum.entriesOf pairs).map .dict

/-- A class with arguments by position and by name. Names may be repeated; the last one counts. -/
structure ProblemRecipe where
  problemClass : ProblemClass
  positional : List Argument
  named : List (Datum × Argument)

/-- The problem of a recipe. Arguments by position are made first. -/
def ProblemRecipe.make (recipe : ProblemRecipe) : Except Fault Problem := do
  let positional ← recipe.positional.mapM Argument.make
  let named ← Datum.entriesMade Argument.make recipe.named
  Problem.build recipe.problemClass positional named

end Attachments
