import Attachments.Identifier.Basic
import Attachments.Problem.Basic

/-!
Contract: what comes of reading many values.

Owns:
- rejected values with their positions and problems;
- batches of identifiers and rejected values, and their quoted forms.

Does not own: how a batch is read.
-/

namespace Attachments

/-- A value that was refused, with its position among the values read. Where a record was made by
hand, anything can stand for the position. -/
structure RejectedValue where
  index : Datum
  value : Datum
  problem : Problem
  deriving Inhabited

/-- The quoted form. -/
def RejectedValue.quoted (rejected : RejectedValue) : String :=
  s!"RejectedAttachmentId(index={rejected.index.literal}, value={rejected.value.literal}, "
    ++ s!"error={rejected.problem.quoted})"

def RejectedValue.quotedWrites (rejected : RejectedValue) : List Datum :=
  [rejected.index, rejected.value] ++ rejected.problem.quotedWrites

/-- The quoted form, if it can be written. -/
def RejectedValue.quotedText (rejected : RejectedValue) : Except Fault String :=
  Datum.written rejected.quotedWrites rejected.quoted

/-- The outcome of reading many values, both lists in the order of the values. -/
structure Batch where
  parsed : List Identifier
  rejected : List RejectedValue

namespace Batch

/-- The outcome of reading nothing. -/
def empty : Batch :=
  ⟨[], []⟩

/-- Whether nothing was rejected. -/
def ok (batch : Batch) : Bool :=
  batch.rejected.isEmpty

/-- Whether a batch equals another one made of the same parts. Problems equal nothing but
themselves, so only a batch without rejected values does. -/
def equalsRemade (batch : Batch) : Bool :=
  batch.rejected.isEmpty

/-- Why no field of a batch can be changed, whatever its name. -/
def assignmentRefusal : Datum → Fault
  | .text field => .frozenAssignment field
  | other => .nonTextField other.kind

/-- The quoted form. -/
def quoted (batch : Batch) : String :=
  s!"AttachmentIdParseResult(parsed={Datum.tupleLiteral (batch.parsed.map Identifier.quoted)}, "
    ++ s!"rejected={Datum.tupleLiteral (batch.rejected.map RejectedValue.quoted)})"

/-- The quoted form, if it can be written. -/
def quotedText (batch : Batch) : Except Fault String :=
  Datum.written (batch.rejected.flatMap RejectedValue.quotedWrites) batch.quoted

end Batch

end Attachments
