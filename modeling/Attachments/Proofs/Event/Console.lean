import Attachments.Proofs.Fields
import Attachments.Supplied.Event.Console

/-!
Contract: which events are shown on the console.

Owns:
- plain values that can be written, and their forms;
- that an event of such values has a line, where neither a stack nor an exception follows it.

Does not own: what the line looks like.
-/

namespace Attachments

namespace EventValue

/-- The value is a plain one that can be written. -/
def IsWritable (value : EventValue) : Prop :=
  ∃ datum, value = .value datum ∧ datum.obstacle? = none

variable {value : EventValue}

theorem IsWritable.exists_plain (writable : value.IsWritable) :
    ∃ text, value.plain = .ok text := by
  obtain ⟨datum, rfl, free⟩ := writable
  refine ⟨Text.points datum.plain, ?_⟩
  simp only [plain, Datum.plainText, Datum.written, Datum.firstObstacle?, free]
  rfl

theorem IsWritable.exists_literal (writable : value.IsWritable) :
    ∃ text, value.literal = .ok text := by
  obtain ⟨datum, rfl, free⟩ := writable
  refine ⟨datum.literal, ?_⟩
  simp only [literal, Datum.literalText, Datum.written, Datum.firstObstacle?, free]
  rfl

end EventValue

namespace Console

variable {event : Event}

theorem exists_fieldColumn {field : String × EventValue} (writable : field.2.IsWritable) :
    ∃ text, fieldColumn field = .ok text := by
  unfold fieldColumn valueText
  cases field.2.points? with
  | some text => exact ⟨_, rfl⟩
  | none =>
    obtain ⟨text, written⟩ := writable.exists_literal
    rw [written]
    exact ⟨_, rfl⟩

theorem exists_mapM_fieldColumn
    (fields : Event)
    (writable : ∀ field ∈ fields, field.2.IsWritable) :
    ∃ texts, fields.mapM fieldColumn = .ok texts := by
  induction fields with
  | nil => exact ⟨[], rfl⟩
  | cons field rest inductionHypothesis =>
    obtain ⟨text, written⟩ := exists_fieldColumn (writable field List.mem_cons_self)
    obtain ⟨texts, others⟩ := inductionHypothesis fun other member =>
      writable other (List.mem_cons_of_mem _ member)
    rw [List.mapM_cons, written, others]
    exact ⟨_, rfl⟩

variable (writable : ∀ field ∈ event, field.2.IsWritable)
include writable

theorem writable_of_get?
    {name : String}
    {value : EventValue}
    (found : event.get? name = some value) :
    value.IsWritable :=
  writable (name, value) (Fields.mem_of_get? found)

theorem exists_ownColumns (columns : List (String × (Text.Points → Text.Points))) :
    ∃ texts, ownColumns event columns = .ok texts := by
  induction columns with
  | nil => exact ⟨[], rfl⟩
  | cons entry rest inductionHypothesis =>
    obtain ⟨name, column⟩ := entry
    obtain ⟨others, written⟩ := inductionHypothesis
    rw [ownColumns]
    cases found : event.get? name with
    | none => exact ⟨others, written⟩
    | some value =>
      obtain ⟨text, plain⟩ := (writable_of_get? writable found).exists_plain
      simp only [plain, written]
      exact ⟨_, rfl⟩

theorem exists_leadingColumn : ∃ texts, leadingColumn event = .ok texts := by
  unfold leadingColumn
  cases found : event.get? "" with
  | none => exact ⟨[], rfl⟩
  | some value =>
    have written : ∃ text, fieldColumn ("", value) = .ok text :=
      exists_fieldColumn (writable_of_get? writable found)
    obtain ⟨text, written⟩ := written
    refine ⟨[text], ?_⟩
    simp only [Option.toList_some, List.mapM_cons, List.mapM_nil, written]
    rfl

/-- What can be written is shown, where nothing follows the line. -/
theorem exists_line
    (noStack : event.get? "stack" = none)
    (noException : event.get? "exception" = none) :
    ∃ text, line event = .ok text := by
  obtain ⟨own, ownWritten⟩ := exists_ownColumns writable columns
  obtain ⟨leading, leadingWritten⟩ := exists_leadingColumn writable
  obtain ⟨others, othersWritten⟩ := exists_mapM_fieldColumn (otherFields event)
    fun field member =>
      writable field (List.mem_of_mem_filter ((List.mergeSort_perm _ _).mem_iff.mp member))
  unfold line attached
  simp only [ownWritten, leadingWritten, othersWritten, noStack, noException]
  exact ⟨_, rfl⟩

end Console

end Attachments
