import Attachments.Level

/-!
Contract: the journal of a reader.

Owns:
- journal entries and lists of them.

Does not own: when a reader writes an entry.
-/

namespace Attachments

/-- One entry of a journal. -/
structure Entry where
  level : Level
  text : String
  deriving DecidableEq, Repr

/-- Entries in the order in which they were written. -/
abbrev Journal :=
  List Entry

end Attachments
