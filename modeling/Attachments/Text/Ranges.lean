/-!
Contract: membership of code points in the ranges of a character property.

Owns:
- closed ranges of code points and the test that reads an ascending list of them.

Does not own: any particular property; each has a module of its own.
-/

namespace Attachments.Text

/-- A closed range of code points. -/
structure CodeRange where
  first : Nat
  last : Nat
  deriving DecidableEq, Repr

/-- Whether a code point lies in one of the ranges. They ascend, so the first range that does not
end before the code point decides. -/
def inRanges (code : Nat) : List CodeRange → Bool
  | [] => false
  | range :: rest =>
    if code ≤ range.last then decide (range.first ≤ code) else inRanges code rest

end Attachments.Text
