import Attachments.Text.CodePoint
import Attachments.Supplied.Text.Encoding.Bytes

/-!
Contract: texts of seven bits in which a plus sign announces units of two bytes in base 64.

Owns:
- the digits of base 64, and the units that they make up;
- the start and the end of a section in base 64, and what is wrong with it;
- halves of pairs that stand alone, which are kept as they are.

Does not own: the other encodings.
-/

namespace Attachments.Text

def base64Value? (byte : UInt8) : Option Nat :=
  let code := byte.toNat
  if 0x41 ≤ code ∧ code ≤ 0x5A then some (code - 0x41)
  else if 0x61 ≤ code ∧ code ≤ 0x7A then some (code - 0x61 + 26)
  else if 0x30 ≤ code ∧ code ≤ 0x39 then some (code - 0x30 + 52)
  else if code = 0x2B then some 62
  else if code = 0x2F then some 63
  else none

/-- A section in base 64: its bytes so far, the last one first, the first half of a pair that waits
for the second one, and the bits that make up no unit yet. -/
structure Base64Section where
  seen : List UInt8
  half? : Option Nat
  bitCount : Nat
  bits : Nat
  deriving DecidableEq, Repr

namespace Base64Section

/-- A section starts with a plus sign. -/
def start : Base64Section where
  seen := [0x2B]
  half? := none
  bitCount := 0
  bits := 0

def waiting (part : Base64Section) : List CodePoint :=
  part.half?.toList.map .half

def takeUnit (part : Base64Section) (unit : Nat) : List CodePoint × Base64Section :=
  match part.half?, isSecondOfPair unit with
  | some first, true => ([.character (pairCharacter first unit)], { part with half? := none })
  | _, _ =>
    if isFirstOfPair unit then (part.waiting, { part with half? := some unit })
    else (part.waiting ++ [.ofNat unit], { part with half? := none })

/-- Takes a digit, which may complete a unit. -/
def takeDigit (part : Base64Section) (byte : UInt8) (value : Nat) :
    List CodePoint × Base64Section :=
  let bits := 64 * part.bits + value
  let seen := byte :: part.seen
  if 10 ≤ part.bitCount then
    let left := part.bitCount - 10
    { part with seen := seen, bitCount := left, bits := bits % Nat.pow 2 left }.takeUnit
      (bits / Nat.pow 2 left)
  else ([], { part with seen := seen, bitCount := part.bitCount + 6, bits := bits })

/-- What is wrong with the bits that are left at the end of a section: they hold a digit, or they
are not zero. -/
def endIssue? (part : Base64Section) : Option ByteIssue :=
  if 6 ≤ part.bitCount then some .partialCharacter
  else if part.bits = 0 then none
  else some .paddingSet

/-- The fault that the bytes of a section bring about, which end before `position`. -/
def fault (part : Base64Section) (position : Nat) (issue : ByteIssue) : DecodingFault :=
  .unreadable "utf7" part.seen.reverse (position - part.seen.length) issue

end Base64Section

def readPlain (position : Nat) (byte : UInt8) : Except DecodingFault CodePoint :=
  match asciiImage? byte with
  | some character => .ok (.character character)
  | none => .error (.unreadable "utf7" [byte] position .notSevenBit)

/-- Reads bytes, the first of which stands at `position` and may be in a section in base 64. A
section ends before a byte that is no digit, and a hyphen ends it without standing for itself. -/
def readUtf7 (position : Nat) (part? : Option Base64Section) :
    List UInt8 → Except DecodingFault (List CodePoint)
  | [] =>
    match part? with
    | none => .ok []
    | some part =>
      if part.half?.isSome || part.endIssue?.isSome then
        .error (part.fault position .shiftNotEnded)
      else .ok []
  | byte :: rest =>
    match part? with
    | some part =>
      match base64Value? byte with
      | some value =>
        let (text, part) := part.takeDigit byte value
        (readUtf7 (position + 1) (some part) rest).map (text ++ ·)
      | none =>
        match part.endIssue? with
        | some issue =>
          .error ({ part with seen := byte :: part.seen }.fault (position + 1) issue)
        | none => do
          let own ← if byte = 0x2D then .ok [] else (readPlain position byte).map ([·])
          (readUtf7 (position + 1) none rest).map (part.waiting ++ own ++ ·)
    | none =>
      if byte = 0x2B then
        match rest with
        | [] => .ok []
        | next :: rest =>
          if next = 0x2D then
            (readUtf7 (position + 2) none rest).map (.character '+' :: ·)
          else
            match base64Value? next with
            | none => .error (.unreadable "utf7" [byte, next] position .badShift)
            | some value =>
              let (text, part) := Base64Section.start.takeDigit next value
              (readUtf7 (position + 2) (some part) rest).map (text ++ ·)
      else do
        let own ← readPlain position byte
        (readUtf7 (position + 1) none rest).map (own :: ·)

end Attachments.Text
