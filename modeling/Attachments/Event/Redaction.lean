import Attachments.Datum.Basic
import Attachments.Fault
import Attachments.Fields
import Attachments.Text.Case
import Attachments.Text.Search

/-!
Contract: the fields of a record whose values must not be shown.

Owns:
- which names are sensitive;
- the marker, and the walk that writes it over sensitive values;
- records at addresses, one of which is masked in its place.

Does not own: values inside values. Only the names of the record itself are looked at.
-/

namespace Attachments

namespace Redaction

/-- The names that are sensitive as they stand. -/
def sensitiveNames : List String :=
  ["password", "token", "authorization", "api_key", "apikey", "bearer", "secret", "credential",
    "signed_url", "signature"]

/-- The names that make every name sensitive that holds them. -/
def tellingParts : List String :=
  ["password", "token"]

/-- What is shown in place of a sensitive value. -/
def marker : String :=
  "***REDACTED***"

/-- Whether a name in small letters is sensitive: it is a sensitive name, holds a telling part, or
ends with an underscore and a sensitive name. -/
def isSensitiveLower (name : List Char) : Bool :=
  sensitiveNames.any (fun known => name == known.toList)
    || tellingParts.any (fun part => Text.holds part.toList name)
    || sensitiveNames.any (fun known => Text.endsWith ('_' :: known.toList) name)

/-- Whether a name is sensitive, in any case. -/
def isSensitive (name : String) : Bool :=
  isSensitiveLower (Text.lowerCase name.toList)

def holdsTelling (value : Datum) : List String → Except Fault Bool
  | [] => .ok false
  | part :: rest =>
    match value.holdsText part with
    | .ok true => .ok true
    | .ok false => holdsTelling value rest
    | .error fault => .error fault

/-- Whether the small form of a key is sensitive. What is no text is no sensitive name, is searched
for telling parts if it can be looked up, and has no end to compare. -/
def isSensitiveSmall : Datum → Except Fault Bool
  | .text name => .ok (isSensitiveLower name.toList)
  | other => do
    other.checkKey
    if ← holdsTelling other tellingParts then .ok true
    else .error (.noOperation other.kind "endswith")

/-- Whether a key is sensitive. A text is looked at in small letters, and an object in its own small
form; nothing else has one. -/
def isSensitiveKey : Datum → Except Fault Bool
  | .text name => .ok (isSensitive name)
  | .object value => value.lower >>= isSensitiveSmall
  | other => .error (.noOperation other.kind "lower")

/-- Writes a mark over the value of every sensitive field, from the first field on. A name that
cannot be judged ends the walk: fields before it are done, and it and all later ones stay as they
are. -/
def mask {Name Value : Type}
    (sensitive? : Name → Except Fault Bool)
    (mark : Value) :
    Fields Name Value → Option Fault × Fields Name Value
  | [] => (none, [])
  | (name, value) :: rest =>
    match sensitive? name with
    | .error fault => (some fault, (name, value) :: rest)
    | .ok sensitive =>
      let (fault?, masked) := mask sensitive? mark rest
      (fault?, (name, if sensitive then mark else value) :: masked)

/-- The mask keeps all names in their order. -/
theorem names_mask
    {Name Value : Type}
    (sensitive? : Name → Except Fault Bool)
    (mark : Value)
    (fields : Fields Name Value) :
    (mask sensitive? mark fields).2.map Prod.fst = fields.map Prod.fst := by
  induction fields with
  | nil => rfl
  | cons field rest inductionHypothesis =>
    obtain ⟨name, value⟩ := field
    cases judged : sensitive? name with
    | error fault => simp [mask, judged]
    | ok sensitive => simp [mask, judged, inductionHypothesis]

/-- Records, each at its address. -/
abbrev Records (Value : Type) :=
  List (Fields Datum Value)

section Records

variable {Value : Type}

/-- Writes a mark into the record at an address, under every sensitive key of a list. A key that
cannot be judged ends the work; what is written stays written. -/
def maskAt (mark : Value) (address : Nat) :
    List Datum → Records Value → Option Fault × Records Value
  | [], records => (none, records)
  | key :: rest, records =>
    match isSensitiveKey key with
    | .error fault => (some fault, records)
    | .ok true => maskAt mark address rest (records.modify address (·.put key mark))
    | .ok false => maskAt mark address rest records

/-- Masks the record at an address in its place, by the keys that it has at the beginning, and hands
on its address. -/
def process (mark : Value) (records : Records Value) (address : Nat) :
    Except Fault Nat × Records Value :=
  let keys := (records[address]?.getD []).map Prod.fst
  match maskAt mark address keys records with
  | (none, after) => (.ok address, after)
  | (some fault, after) => (.error fault, after)

end Records

end Redaction

end Attachments
