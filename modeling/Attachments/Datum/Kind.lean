/-!
Contract: the names of what values are.

Owns:
- one constructor for each kind of value, and its name.

Does not own: the values.
-/

namespace Attachments

/-- What a value is. Attachment identifiers are listed because they meet plain values in
comparisons; an object is of a class of its own. -/
inductive Kind where
  | null
  | bool
  | int
  | real
  | text
  | list
  | tuple
  | dict
  | identifier
  | object (className : String)
  deriving DecidableEq, Repr

def Kind.name : Kind → String
  | .null => "NoneType"
  | .bool => "bool"
  | .int => "int"
  | .real => "float"
  | .text => "str"
  | .list => "list"
  | .tuple => "tuple"
  | .dict => "dict"
  | .identifier => "AttachmentId"
  | .object className => className

end Attachments
