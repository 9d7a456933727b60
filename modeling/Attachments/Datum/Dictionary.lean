import Attachments.Datum.Basic
import Attachments.Fields

/-!
Contract: dictionaries made of pairs.

Owns:
- the entries that pairs leave, and the fault for a key that cannot be one;
- the order in which values are made and keys are checked;
- dictionaries whose keys serve as names of arguments.

Does not own: records whose names are known to be texts.
-/

namespace Attachments

namespace Datum

/-- The entries of pairs whose values are still to be made. Each value is made before its key is
checked, and both before the next pair is looked at. -/
def entriesMade {Source Value : Type}
    (make : Source → Except Fault Value)
    (pairs : List (Datum × Source)) :
    Except Fault (Fields Datum Value) := do
  let made ← pairs.mapM fun pair => do
    let value ← make pair.2
    pair.1.checkKey
    .ok (pair.1, value)
  .ok (.ofPairs made)

def entriesOf {Value : Type} (pairs : List (Datum × Value)) :
    Except Fault (Fields Datum Value) :=
  entriesMade .ok pairs

/-- The entries of a dictionary as named arguments. All keys must be texts. -/
def namedArguments {Value : Type} :
    Fields Datum Value → Except Fault (Fields String Value)
  | [] => .ok []
  | (.text name, value) :: rest => (namedArguments rest).map ((name, value) :: ·)
  | _ :: _ => .error .nonTextArgumentName

end Datum

end Attachments
