import Attachments.Event.Dressing
import Attachments.Proofs.Fields

/-!
Contract: what the mask makes of a whole record.

Owns:
- the names whose values the mask leaves open;
- the mask as a change of values, where every name can be judged;
- that events which agree on the open names are the same once they are masked.

Does not own: how values reach an event, and what is shown of a masked one.
-/

namespace Attachments

namespace Redaction

/-- The mask leaves the values under such a name as they are. -/
def IsOpen (name : String) : Prop :=
  isSensitive name = false

instance (name : String) : Decidable (IsOpen name) :=
  inferInstanceAs (Decidable (isSensitive name = false))

/-- The mask judges such a key, and leaves the values under it as they are. -/
def IsOpenKey (key : Datum) : Prop :=
  isSensitiveKey key = .ok false

theorem isOpenKey_text (name : String) : IsOpenKey (.text name) ↔ IsOpen name := by
  simp [IsOpenKey, IsOpen, isSensitiveKey]

/-- Where every name can be judged, the walk reaches the end and changes values only. -/
theorem mask_of_judged {Name Value : Type}
    (judge : Name → Bool)
    (mark : Value)
    (fields : Fields Name Value) :
    mask (fun name => .ok (judge name)) mark fields =
      (none, fields.map fun field => (field.1, if judge field.1 then mark else field.2)) := by
  induction fields with
  | nil => rfl
  | cons field rest inductionHypothesis => simp [mask, inductionHypothesis]

end Redaction

namespace Event

/-- The value that the mask leaves in a field. -/
def shownValue (field : String × EventValue) : EventValue :=
  if Redaction.isSensitive field.1 then .ofText Redaction.marker else field.2

theorem redacted_eq_map (event : Event) :
    redacted event = event.map fun field => (field.1, shownValue field) := by
  simp only [redacted, Redaction.mask_of_judged, shownValue]

/-- The mask takes away all that tells apart two events which agree on the open names. -/
theorem redacted_eq_of_agree
    {event other : Event}
    (agree : Fields.AgreeOn Redaction.IsOpen event other) :
    redacted event = redacted other := by
  rw [redacted_eq_map, redacted_eq_map]
  induction agree with
  | nil => rfl
  | @cons name value otherValue _ _ same _ inductionHypothesis =>
    have shown : shownValue (name, value) = shownValue (name, otherValue) := by
      cases judged : Redaction.isSensitive name with
      | true => simp [shownValue, judged]
      | false => simp [shownValue, judged, same judged]
    rw [List.map_cons, List.map_cons, shown, inductionHypothesis]

end Event

end Attachments
