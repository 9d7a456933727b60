import Attachments.Event.Call
import Attachments.Identifier.Operand
import Attachments.Problem.Recipe

/-!
Contract: what can be asked of a session.

Owns:
- one constructor for each step;
- values of a log call that are still to be made.

Does not own: what the steps do.
-/

namespace Attachments

/-- A value for a log call: a plain one, or the problem of a class with arguments. -/
inductive FieldRecipe where
  | value (datum : Datum)
  | problem (recipe : ProblemRecipe)

def FieldRecipe.make : FieldRecipe → Except Fault EventValue
  | .value datum => .ok (.value datum)
  | .problem recipe => recipe.make.map .raised

/-- The named values that recipes make. Of a repeated name the last value counts. -/
def FieldRecipe.makeAll (recipes : List (Datum × FieldRecipe)) :
    Except Fault (Fields Datum EventValue) :=
  Datum.entriesMade make recipes

/-- A step of a session. Settings that are not given are the kept ones. A log call comes with the
report of the exception that is being handled, if there is one. -/
inductive Step where
  | setVariable (name value : String)
  | unsetVariable (name : String)
  | writeFile (text : Option String)
  | showLegacySettings
  | clearLegacySettings
  | showLogSettings
  | clearLogSettings
  | createReader (slot : String) (settings : Option (Fields String Datum))
  | makeReader (slot : String) (allowLegacy : Datum)
  | read (slot : String) (value : Datum) (target : Option String)
  | readMany (slot : String) (values : Datum)
  | makeIdentifier (slot : String) (spelling : Spelling)
  | showIdentifier (slot : String)
  | assign (slot : String) (field : Datum)
  | delete (slot : String) (field : Datum)
  | replace (slot target : String) (changes : Fields String Datum)
  | compare (left right : String)
  | store (slot : String) (value : Datum)
  | find (spelling : Spelling)
  | listIndex
  | configure (settings : Option (Fields String Datum))
  | makeLogger (slot : String) (name : Datum)
  | log
      (slot : String)
      (method : Method)
      (message : Datum)
      (arguments : List Datum)
      (fields : List (Datum × FieldRecipe))
      (handled? : Option String)
  | bindContext (fields : List (Datum × Datum))
  | unbindContext (names : List String)
  | clearContext

end Attachments
