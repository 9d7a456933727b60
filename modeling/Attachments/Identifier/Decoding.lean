import Attachments.Identifier.Construction
import Attachments.Text.Pieces

/-!
Contract: identifiers read from encoded forms.

Owns:
- the two encoded forms and the policy on legacy identifiers;
- what is reported for everything else.

Does not own: batches of encoded forms.
-/

namespace Attachments

namespace Identifier

/-- The refusal of a value that has neither encoded form. The value is written in it. -/
def malformed (serialized : Datum) : Failure :=
  match (Rejection.malformed serialized .standard).made with
  | .ok rejection => .rejected rejection
  | .error fault => .fault fault

/-- The pieces of a value between separators. A text is cut, and an object is asked; nothing else
can be cut. -/
def cut : Datum → Except Fault (List Datum)
  | .text text =>
    let (first, rest) := Text.pieces separator text.toList
    .ok ((first :: rest).map fun piece => .text (String.ofList piece))
  | .object value => value.split
  | other => .error (.noOperation other.kind "split")

section Making

variable {Made : Type} (make : (domain id : Datum) → Except Failure Made)

/-- Reads the pieces of an encoded form. Two pieces are a domain and an id, and one of them must
hold something. A single piece that holds something is a legacy id, which the policy can forbid. -/
def decodePieces (allowLegacy : Bool) (serialized : Datum) : List Datum → Except Failure Made
  | [domain, id] =>
    if domain.truthy || id.truthy then make domain id else .error (malformed serialized)
  | [id] =>
    if id.truthy && allowLegacy then make (.text "") id else .error (malformed serialized)
  | _ => .error (malformed serialized)

/-- Reads an encoded form, and makes of its parts what is wanted. -/
def decodeBy (allowLegacy : Bool) : Datum → Except Failure Made
  | .null => .error (.rejected .missingInput)
  | serialized =>
    match cut serialized with
    | .ok pieces => decodePieces make allowLegacy serialized pieces
    | .error fault => .error (.fault fault)

end Making

/-- Reads an encoded form. -/
def decode (allowLegacy : Bool) (serialized : Datum) : Except Failure Identifier :=
  decodeBy ofComponents allowLegacy serialized

end Identifier

end Attachments
