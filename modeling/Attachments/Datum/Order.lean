import Attachments.Datum.Basic

/-!
Contract: order between values.

Owns:
- the order of numbers, of texts, and of lists and tuples;
- the fault for two values of kinds that have no order.

Does not own: equality, which is defined for all values.
-/

namespace Attachments

namespace Datum

/-- How two numbers compare. Nothing else does. -/
def numberOrdering? (left right : Datum) : Option Ordering :=
  match left.integer?, right.integer? with
  | some leftNumber, some rightNumber => some (compare leftNumber rightNumber)
  | _, _ =>
    match left.amount?, right.amount? with
    | some leftAmount, some rightAmount => some (compare leftAmount rightAmount)
    | _, _ => none

mutual

/-- Whether a relation holds between two values. Numbers are ordered by amount and texts by code
point. Two lists, or two tuples, are ordered by their first unequal items. -/
def relate (relation : Relation) : Datum → Datum → Except Fault Bool
  | .list left, .list right => relateItems relation left right
  | .tuple left, .tuple right => relateItems relation left right
  | .text left, .text right => .ok (relation.holds (compare left right))
  | left, right =>
    match numberOrdering? left right with
    | some ordering => .ok (relation.holds ordering)
    | none => .error (.unordered relation left.kind right.kind)

/-- Order of lists. A list that ends where another goes on is the smaller one. -/
def relateItems (relation : Relation) : List Datum → List Datum → Except Fault Bool
  | [], [] => .ok (relation.holds .eq)
  | [], _ :: _ => .ok (relation.holds .lt)
  | _ :: _, [] => .ok (relation.holds .gt)
  | left :: lefts, right :: rights =>
    if left == right then relateItems relation lefts rights else relate relation left right

end

end Datum

end Attachments
