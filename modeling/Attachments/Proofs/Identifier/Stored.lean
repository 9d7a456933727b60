import Attachments.Proofs.Identifier.Encoding

/-!
Contract: identifiers as they are stored, with the encoded form written beside the parts.

Owns:
- the fields of a stored identifier, and the order in which they are written;
- the ways in which one comes about: from components, from an encoded form, as a changed copy;
- that each way ends as it does for identifiers, and leaves the fields that the identifier calls
  for.

Does not own: where stored identifiers are kept.
-/

namespace Attachments

/-- An identifier as it is stored. Its fields can hold any value while it is made, and the encoded
form is not there before it is written. -/
structure StoredIdentifier where
  domain : Datum
  id : Datum
  encoded : Option Datum

namespace StoredIdentifier

/-! ## Making -/

/-- The text that a value is. Only a text has a plain one. -/
def plainText : Datum → Except Failure String
  | .text text => .ok text
  | other => .error (.fault (.notPlainText other.kind))

/-- The encoded form of the parts as they are stored. -/
def serialized (stored : StoredIdentifier) : Datum :=
  if stored.domain.truthy then
    .text (stored.domain.plain ++ separatorValue.plain ++ stored.id.plain)
  else stored.id

/-- Makes a stored identifier. The given values are written first; after the checks, each part is
written again as a plain text, and at last the encoded form of what is stored by then. -/
def make (domain id : Datum) : Except Failure StoredIdentifier :=
  let given : StoredIdentifier := ⟨domain, id, none⟩
  if given.id.isNull then .error (.rejected .missingId)
  else if given.domain.isNull then
    .error (.rejected (.missingComponent (.text Part.domain.name)))
  else do
    let _ ← screen .domain given.domain
    let _ ← screen .id given.id
    let domain ← plainText given.domain
    let written := { given with domain := .text domain }
    let id ← plainText written.id
    let written := { written with id := .text id }
    .ok { written with encoded := some written.serialized }

/-- Reads an encoded form into a stored identifier. -/
def decode (allowLegacy : Bool) (serialized : Datum) : Except Failure StoredIdentifier :=
  Identifier.decodeBy make allowLegacy serialized

/-- The stored identifier that a spelling stands for, unless it stands for a plain value. -/
def spelled : Spelling → Except Failure (Option StoredIdentifier)
  | .components domain id => (make domain id).map some
  | .encoded serialized allowLegacy => (decode allowLegacy.truthy serialized).map some
  | .plain _ => .ok none

/-- A copy with other parts. What is not changed is taken from the fields as they are stored. -/
def replace (stored : StoredIdentifier) (changes : Fields String Datum) :
    Except Failure StoredIdentifier :=
  if changes.has Identifier.encodedField then
    .error (.fault (.derivedField Identifier.encodedField))
  else
    match changes.find? fun change => change.1 ∉ [Part.domain.name, Part.id.name] with
    | some (name, _) =>
      let misuse := if name = "self" then CallMisuse.repeated name else .unexpected name
      .error (.fault (.misusedCall (Kind.identifier.name ++ ".__init__") misuse))
    | none =>
      make ((changes.get? Part.domain.name).getD stored.domain)
        ((changes.get? Part.id.name).getD stored.id)

/-- An assignment to a field, which is refused whatever the value. -/
def assign (field : Datum) (_ : StoredIdentifier) : Except Fault StoredIdentifier :=
  .error (Identifier.changeRefusal .frozenAssignment field)

def delete (field : Datum) (_ : StoredIdentifier) : Except Fault StoredIdentifier :=
  .error (Identifier.changeRefusal .frozenDeletion field)

/-- Whether two stored identifiers are equal. The encoded form does not take part. -/
def same (left right : StoredIdentifier) : Bool :=
  left.domain == right.domain && left.id == right.id

/-- Both parts are texts without a separator, and the encoded form is the id alone if the domain is
empty, and otherwise the domain, the separator and the id. -/
def WellKept (stored : StoredIdentifier) : Prop :=
  ∃ domain id : String,
    stored.domain = .text domain ∧ stored.id = .text id ∧
    '/' ∉ domain.toList ∧ '/' ∉ id.toList ∧
    stored.encoded = some (.text (if domain = "" then id else domain ++ "/" ++ id))

end StoredIdentifier

namespace Identifier

/-- The fields that an identifier calls for. -/
def stored (identifier : Identifier) : StoredIdentifier :=
  ⟨.text identifier.domain.val, .text identifier.id.val, some (.text identifier.encode)⟩

theorem stored_wellKept (identifier : Identifier) : identifier.stored.WellKept := by
  refine ⟨identifier.domain.val, identifier.id.val, rfl, rfl, identifier.domain.property,
    identifier.id.property, ?_⟩
  by_cases noDomain : identifier.domain.val = ""
  · rw [if_pos noDomain, stored, encode_of_noDomain noDomain]
  · rw [if_neg noDomain, stored, encode_of_domain noDomain]
    rfl

theorem stored_same (left right : Identifier) :
    left.stored.same right.stored = decide (left = right) := by
  have parts : left.stored.same right.stored =
      (left.domain.val == right.domain.val && left.id.val == right.id.val) := by
    simp [StoredIdentifier.same, stored, BEq.beq, Datum.same]
  rw [parts, Bool.eq_iff_iff]
  simp only [Bool.and_eq_true, beq_iff_eq, decide_eq_true_eq]
  constructor
  · rintro ⟨domains, ids⟩
    exact eq_of_parts domains ids
  · rintro rfl
    exact ⟨rfl, rfl⟩

end Identifier

namespace StoredIdentifier

/-! ## Made as identifiers are -/

theorem screen_ok_cases
    {part : Part}
    {value : Datum}
    {screened : Screened}
    (passed : screen part value = .ok screened) :
    (∃ component : Component,
        value = .text component.val ∧ screened = .component component) ∨
      ((∀ text, value ≠ .text text) ∧ screened = .container value.kind) := by
  unfold screen at passed
  dsimp only at passed
  split at passed
  next text =>
    split at passed
    next absent =>
      exact .inl ⟨⟨text, absent⟩, rfl, (Except.ok.inj passed).symm⟩
    next => contradiction
  next noText =>
    split at passed
    · contradiction
    · exact .inr ⟨fun text same => noText text same, (Except.ok.inj passed).symm⟩
    · contradiction

theorem plainText_of_screen
    {part : Part}
    {value : Datum}
    {screened : Screened}
    (passed : screen part value = .ok screened) :
    plainText value = screened.toComponent.map Subtype.val := by
  rcases screen_ok_cases passed with ⟨component, rfl, rfl⟩ | ⟨noText, rfl⟩
  · rfl
  · cases value with
    | text text => exact absurd rfl (noText text)
    | _ => rfl

/-- The encoded form is made of parts that are stored as plain texts by then. -/
theorem serialized_parts (domain id : Component) (encoded : Option Datum) :
    serialized ⟨.text domain.val, .text id.val, encoded⟩ =
      .text (Identifier.mk domain id).encode := by
  by_cases noDomain : domain.val = ""
  · rw [Identifier.encode_of_noDomain noDomain]
    simp [serialized, Datum.truthy, noDomain]
  · rw [Identifier.encode_of_domain noDomain]
    simp [serialized, Datum.truthy, noDomain, Datum.plain, separatorValue, paired]

theorem make_eq (domain id : Datum) :
    make domain id = (Identifier.ofComponents domain id).map Identifier.stored := by
  unfold make Identifier.ofComponents
  dsimp only
  split
  · rfl
  · split
    · rfl
    · cases domainPassed : screen .domain domain with
      | error failure => rfl
      | ok screenedDomain =>
        cases idPassed : screen .id id with
        | error failure => rfl
        | ok screenedId =>
          have domainText := plainText_of_screen domainPassed
          have idText := plainText_of_screen idPassed
          cases domainMade : screenedDomain.toComponent with
          | error failure => simp [domainText, domainMade, bind, Except.bind, Except.map]
          | ok domain =>
            cases idMade : screenedId.toComponent with
            | error failure =>
              simp [domainText, idText, domainMade, idMade, bind, Except.bind, Except.map]
            | ok id =>
              simp [domainText, idText, domainMade, idMade, bind, Except.bind, Except.map,
                serialized_parts, Identifier.stored]

/-- Where the parts are made into stored identifiers, reading ends as it does for identifiers. -/
theorem decode_eq (allowLegacy : Bool) (value : Datum) :
    decode allowLegacy value = (Identifier.decode allowLegacy value).map Identifier.stored := by
  have made : make = fun domain id =>
      (Identifier.ofComponents domain id).map Identifier.stored := by
    funext domain id
    exact make_eq domain id
  rw [decode, made, Identifier.decodeBy_map]
  rfl

def ofOperand : Operand → Option StoredIdentifier
  | .named identifier => some identifier.stored
  | .plain _ => none

theorem spelled_eq (spelling : Spelling) :
    spelled spelling = spelling.operand.map ofOperand := by
  cases spelling with
  | components domain id =>
    rw [spelled, make_eq, Spelling.operand]
    cases Identifier.ofComponents domain id <;> rfl
  | encoded serialized allowLegacy =>
    rw [spelled, decode_eq, Spelling.operand]
    cases Identifier.decode allowLegacy.truthy serialized <;> rfl
  | plain value => rfl

theorem replace_eq (identifier : Identifier) (changes : Fields String Datum) :
    identifier.stored.replace changes = (identifier.replace changes).map Identifier.stored := by
  unfold replace Identifier.replace
  split
  · rfl
  · cases changes.find? fun change => decide (change.1 ∉ [Part.domain.name, Part.id.name]) with
    | none => exact make_eq _ _
    | some unknown => rfl

end StoredIdentifier

end Attachments
