/-!
Contract: a text inside another.

Owns:
- the search for a part anywhere, and at the end.

Does not own: case; both texts are compared as they are.
-/

namespace Attachments.Text

/-- Whether a part stands somewhere in a text. -/
def holds (part : List Char) : List Char → Bool
  | [] => part.isEmpty
  | character :: rest => part.isPrefixOf (character :: rest) || holds part rest

def endsWith (part text : List Char) : Bool :=
  part.isSuffixOf text

end Attachments.Text
