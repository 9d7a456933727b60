import Attachments.Fault
import Attachments.Identifier.Order

/-!
Contract: lists of identifiers in order.

Owns:
- stable sorting in both directions, with the positions the identifiers came from;
- the distinct identifiers of a list;
- the least and the greatest identifier.

Does not own: the order itself.
-/

namespace Attachments

namespace Identifier

/-- Whether one identifier may stand before another in an ascending list. -/
def notAfter (left right : Identifier) : Bool :=
  !decide (right < left)

/-- The list in ascending order. Equal identifiers keep their places relative to each other. -/
def ascending (identifiers : List Identifier) : List Identifier :=
  identifiers.mergeSort notAfter

/-- The list in order, each identifier with its position in the list. Descending order reverses the
comparison and not the list, so equal identifiers keep their places relative to each other. -/
def arranged (descending : Bool) (identifiers : List Identifier) : List (Identifier × Nat) :=
  identifiers.zipIdx.mergeSort fun left right =>
    if descending then notAfter right.1 left.1 else notAfter left.1 right.1

/-- The identifiers of a list, each once, at its first place. -/
def distinct : List Identifier → List Identifier
  | [] => []
  | first :: rest => first :: (distinct rest).filter (· ≠ first)

def smaller (left right : Identifier) : Identifier :=
  if right < left then right else left

def greater (left right : Identifier) : Identifier :=
  if left < right then right else left

/-- The least identifier of a list. An empty list has none. -/
def least : List Identifier → Except Fault Identifier
  | [] => .error (.emptyChoice "min")
  | first :: rest => .ok (rest.foldl smaller first)

/-- The greatest identifier of a list. An empty list has none. -/
def greatest : List Identifier → Except Fault Identifier
  | [] => .error (.emptyChoice "max")
  | first :: rest => .ok (rest.foldl greater first)

end Identifier

end Attachments
