import Attachments.Datum.Order
import Attachments.Identifier.Decoding
import Attachments.Identifier.Order
import Attachments.Sorting.Schedule

/-!
Contract: identifiers and plain values side by side.

Owns:
- the ways to spell an identifier, and what a spelling stands for;
- equality, order and the three-way comparison where either side may be a plain value;
- the check that a list to be sorted holds identifiers only.

Does not own: the order of identifiers and the order of plain values.
-/

namespace Attachments

/-- One side of a comparison. -/
inductive Operand where
  | named (identifier : Identifier)
  | plain (value : Datum)

/-- How an operand is given: an identifier by its components or by its encoded form, or a plain
value. -/
inductive Spelling where
  | components (domain id : Datum)
  | encoded (serialized allowLegacy : Datum)
  | plain (value : Datum)
  deriving Inhabited

/-- What a spelling stands for. -/
def Spelling.operand : Spelling → Except Failure Operand
  | .components domain id => (Identifier.ofComponents domain id).map .named
  | .encoded serialized allowLegacy =>
    (Identifier.decode allowLegacy.truthy serialized).map .named
  | .plain value => .ok (.plain value)

namespace Operand

def kind : Operand → Kind
  | .named _ => .identifier
  | .plain value => value.kind

def toIdentifier (operation : String) : Operand → Except Fault Identifier
  | .named identifier => .ok identifier
  | .plain value => .error (.noOperation value.kind operation)

/-- Equality. An identifier never equals a plain value, not even its own encoded form. -/
def same : Operand → Operand → Bool
  | .named left, .named right => left = right
  | .plain left, .plain right => left == right
  | _, _ => false

/-- Whether a relation holds. An identifier and a plain value have no order. -/
def relate (relation : Relation) : Operand → Operand → Except Fault Bool
  | .named left, .named right => .ok (relation.holds (left.ordering right))
  | .plain left, .plain right => left.relate relation right
  | left, right => .error (.unordered relation left.kind right.kind)

/-- The three-way comparison, which only identifiers offer. -/
def compareTo : Operand → Operand → Except Fault Int
  | .plain value, _ => .error (.noOperation value.kind "compare_to")
  | .named left, .named right => .ok (left.compareTo right)
  | .named _, .plain value => .error (.unordered .less .identifier value.kind)

def checkKey : Operand → Except Fault Unit
  | .named _ => .ok ()
  | .plain value => value.checkKey

/-- The number of different operands among two. Both must be able to be keys. -/
def distinctCount (left right : Operand) : Except Fault Nat := do
  left.checkKey
  right.checkKey
  .ok (if left.same right then 1 else 2)

/-- The operands in ascending order, or in descending order. The list is turned around before and
after it is sorted in descending order, so that equal operands keep their places. -/
def arranged (descending : Bool) (operands : List Operand) : Except Fault (List Operand) :=
  let before (left right : Operand) := left.relate .less right
  if descending then (Sorting.sort before operands.reverse).map List.reverse
  else Sorting.sort before operands

/-- The identifiers of a list that is to be sorted. Plain values have no place among identifiers,
and alone they have no encoded form to show; the first in order is reported. -/
def sortable (descending : Bool) (operands : List Operand) : Except Fault (List Identifier) := do
  let inOrder ← arranged descending operands
  let _ ← inOrder.mapM (toIdentifier "encode")
  operands.mapM (toIdentifier "encode")

end Operand

end Attachments
