import Attachments.Fault
import Attachments.Problem.Rejection

/-!
Contract: the two ways in which work on identifiers ends without one.

Owns:
- the distinction between a value that is refused and an operation that does not apply.

Does not own: the causes of either.
-/

namespace Attachments

/-- Why there is no identifier. A refusal is about one value and can be recorded; a fault ends
whatever was under way. -/
inductive Failure where
  | rejected (rejection : Rejection)
  | fault (fault : Fault)
  deriving Inhabited

end Attachments
