import Attachments.Failure
import Attachments.Identifier.Basic

/-!
Contract: identifiers made of two values.

Owns:
- the search for the separator, which looks inside whatever can hold a text;
- the order of the checks, which decides what is reported when both values are bad.

Does not own: encoded forms.
-/

namespace Attachments

/-- The two parts of an identifier. -/
inductive Part where
  | domain
  | id
  deriving DecidableEq, Repr

def Part.name : Part → String
  | .domain => "domain"
  | .id => "id"

/-- The separator as a value. -/
def separatorValue : Datum :=
  .text (String.singleton separator)

/-- A value in which no separator was found: a component, or a value of another kind. -/
inductive Screened where
  | component (text : Component)
  | container (kind : Kind)

/-- Looks for the separator in a value: in a text as a character, in any other value as that value
is searched. -/
def screen (part : Part) (value : Datum) : Except Failure Screened :=
  let invalid : Except Failure Screened :=
    .error (.rejected (.invalidComponent (.text part.name) value separatorValue))
  match value with
  | .text text =>
    if absent : separator ∉ text.toList then .ok (.component ⟨text, absent⟩) else invalid
  | other =>
    match other.holdsText (String.singleton separator) with
    | .ok true => invalid
    | .ok false => .ok (.container other.kind)
    | .error fault => .error (.fault fault)

/-- The component of a screened value. A container is none. -/
def Screened.toComponent : Screened → Except Failure Component
  | .component text => .ok text
  | .container kind => .error (.fault (.notPlainText kind))

/-- A component passes the screen as itself. -/
theorem screen_text (part : Part) (component : Component) :
    screen part (.text component.val) = .ok (.component component) := by
  simp [screen, component.property]

namespace Identifier

/-- The identifier with the given domain and id. An absent id is reported before an absent domain;
then both values are searched for the separator, and at last both must be texts. -/
def ofComponents (domain id : Datum) : Except Failure Identifier :=
  if id.isNull then .error (.rejected .missingId)
  else if domain.isNull then .error (.rejected (.missingComponent (.text Part.domain.name)))
  else do
    let screenedDomain ← screen .domain domain
    let screenedId ← screen .id id
    let domain ← screenedDomain.toComponent
    let id ← screenedId.toComponent
    .ok ⟨domain, id⟩

/-- Two components make the identifier that has them. -/
theorem ofComponents_text (domain id : Component) :
    ofComponents (.text domain.val) (.text id.val) = .ok ⟨domain, id⟩ := by
  simp [ofComponents, Datum.isNull, screen_text, Screened.toComponent, bind, Except.bind]

/-- The name of the encoded form, which an identifier keeps beside its parts. -/
def encodedField : String :=
  "_serialized"

/-- Why a field of an identifier cannot be changed: an identifier is frozen, and has no other
fields than its own. -/
def changeRefusal (frozen : String → Fault) : Datum → Fault
  | .text field =>
    if field ∈ [Part.domain.name, Part.id.name, encodedField] then frozen field else .foreignField
  | other => .nonTextField other.kind

/-- A copy with another domain, another id or both, checked like a new identifier. The encoded form
cannot be chosen, and there is nothing else to change. -/
def replace (identifier : Identifier) (changes : Fields String Datum) :
    Except Failure Identifier :=
  if changes.has encodedField then .error (.fault (.derivedField encodedField))
  else
    match changes.find? fun change => change.1 ∉ [Part.domain.name, Part.id.name] with
    | some (name, _) =>
      let misuse := if name = "self" then CallMisuse.repeated name else .unexpected name
      .error (.fault (.misusedCall (Kind.identifier.name ++ ".__init__") misuse))
    | none =>
      ofComponents
        ((changes.get? Part.domain.name).getD (.text identifier.domain.val))
        ((changes.get? Part.id.name).getD (.text identifier.id.val))

end Identifier

end Attachments
