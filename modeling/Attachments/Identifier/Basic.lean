import Attachments.Text.Quoted

/-!
Contract: attachment identifiers.

Owns:
- the separator, and components, which are texts without it;
- identifiers as pairs of a provider domain and a token of that provider;
- the encoded form and the quoted form.

Does not own: how components are checked and how encoded forms are read.
-/

namespace Attachments

/-- Stands between the domain and the id of an encoded identifier. -/
def separator : Char :=
  '/'

/-- A text that can stand on either side of the separator. -/
abbrev Component :=
  { text : String // separator ∉ text.toList }

/-- The name of an attachment: the domain of a provider and a token unique to that provider. The
domain is empty only in legacy identifiers. -/
structure Identifier where
  domain : Component
  id : Component
  deriving DecidableEq

namespace Identifier

/-- Whether the identifier has no domain. -/
def isLegacy (identifier : Identifier) : Bool :=
  identifier.domain.val.isEmpty

/-- The encoded form: domain and id with the separator between them, or the bare id of a legacy
identifier. -/
def encode (identifier : Identifier) : String :=
  if identifier.isLegacy then
    identifier.id.val
  else
    identifier.domain.val ++ String.singleton separator ++ identifier.id.val

/-- The quoted form, which shows both components. -/
def quoted (identifier : Identifier) : String :=
  s!"AttachmentId(domain={Text.quote identifier.domain.val}, "
    ++ s!"id={Text.quote identifier.id.val})"

end Identifier

end Attachments
