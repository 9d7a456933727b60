import Attachments.Identifier.Basic

/-!
Contract: the order of identifiers.

Owns:
- the strict order by domain and then by id, both by code point;
- the three-way comparison.

Does not own: comparison with anything that is no identifier.
-/

namespace Attachments

namespace Identifier

/-- Whether one identifier stands before another: its domain is smaller, or the domains are equal
and its id is smaller. -/
def Before (left right : Identifier) : Prop :=
  left.domain.val < right.domain.val ∨
    (left.domain.val = right.domain.val ∧ left.id.val < right.id.val)

instance : LT Identifier where
  lt := Before

instance (left right : Identifier) : Decidable (left < right) :=
  inferInstanceAs (Decidable (_ ∨ _))

/-- How two identifiers compare. -/
def ordering (left right : Identifier) : Ordering :=
  if left = right then .eq else if left < right then .lt else .gt

/-- The three-way comparison as a number. -/
def compareTo (left right : Identifier) : Int :=
  if left = right then 0 else if left < right then -1 else 1

end Identifier

end Attachments
