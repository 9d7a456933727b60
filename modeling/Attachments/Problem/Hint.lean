import Attachments.Datum.Basic

/-!
Contract: what is offered to a caller whose text does not look like an identifier.

Owns:
- the shapes of an identifier;
- the values in which shapes can be given, and the shapes that a value stands for.

Does not own: the problem that carries them.
-/

namespace Attachments

namespace Hint

/-- The texts of a list of values, from the position `index` on. -/
def textsFrom (index : Nat) : List Datum → Except Fault (List String)
  | [] => .ok []
  | .text text :: rest => (textsFrom (index + 1) rest).map (text :: ·)
  | other :: _ => .error (.unjoinableItem index other.kind)

/-- The shapes that a value stands for: its elements, all of which must be texts. A value without
elements is no hint. -/
def textsOf (given : Datum) : Except Fault (List String) :=
  match given.elements? with
  | some elements => textsFrom 0 elements
  | none => .error .notJoinable

end Hint

/-- A list of shapes, with the value in which they were given. -/
structure Hint where
  given : Datum
  texts : List String
  stands : Hint.textsOf given = .ok texts

namespace Hint

/-- The two shapes of an identifier. -/
def standard : Hint :=
  ⟨.tuple [.text "<domain>/<id>", .text "<id>"], ["<domain>/<id>", "<id>"], rfl⟩

instance : Inhabited Hint where
  default := standard

/-- The shapes as alternatives in one text. -/
def joined (hint : Hint) : String :=
  " or ".intercalate hint.texts

/-- Reads a hint from a value. -/
def ofDatum (given : Datum) : Except Fault Hint :=
  match stands : textsOf given with
  | .ok texts => .ok ⟨given, texts, stands⟩
  | .error fault => .error fault

end Hint

end Attachments
