import Attachments.Datum.Basic

/-!
Contract: byte strings, which look like texts and refuse to be searched for one.

Owns:
- the literal form of a byte string, its items, and its small form;
- byte strings as objects.

Does not own: how bytes are read as text.
-/

namespace Attachments

namespace ByteString

/-- The literal form: the characters of the same numbers, quoted, with escapes beyond ASCII. -/
def literal (values : List UInt8) : String :=
  "b" ++ Text.asciiOnly
    (Text.quote (String.ofList (values.map fun value => Char.ofNat value.toNat)))

/-- A number that tells byte strings apart. -/
def identity (values : List UInt8) : Nat :=
  values.foldl (fun number value => 256 * number + value.toNat + 1) 0

/-- A byte in small letters. -/
def small (value : UInt8) : UInt8 :=
  if 65 ≤ value ∧ value ≤ 90 then value + 32 else value

/-- What a byte string answers when it is to be cut at a text, or searched for one. -/
def refusal : Fault :=
  .own "TypeError" "a bytes-like object is required, not 'str'"

/-- A byte string as an object. The small form of one is a byte string again; `depth` says how often
one after the other can be asked for. -/
def object : (depth : Nat) → (values : List UInt8) → Foreign Datum
  | depth, values =>
    { className := "bytes"
      identity := identity values
      isTrue := !values.isEmpty
      isHashable := true
      plain := literal values
      literal := literal values
      obstacle? := none
      elements? := some (values.map fun value => .int value.toNat)
      split := .error refusal
      lower := match depth with
        | 0 => .error (.noOperation (.object "bytes") "lower")
        | depth + 1 => .ok (.object (object depth (values.map small)))
      holds := fun _ => .error refusal }

end ByteString

/-- A byte string as a value. Nobody asks for the small form of a small form. -/
def Datum.bytes (values : List UInt8) : Datum :=
  .object (ByteString.object 1 values)

end Attachments
