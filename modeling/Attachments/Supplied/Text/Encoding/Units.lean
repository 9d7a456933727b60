import Attachments.Text.CodePoint
import Attachments.Text.DecodingFault

/-!
Contract: texts as numbers of several bytes.

Owns:
- the two orders of the bytes of a number;
- units of two bytes, of which two can make up one character;
- units of four bytes;
- the mark that a text has to start with if the order is not fixed.

Does not own: the other encodings.
-/

namespace Attachments.Text

/-- Which byte of a number of several bytes comes first: the least or the greatest. -/
inductive ByteOrder where
  | little
  | big
  deriving DecidableEq, Repr

def ByteOrder.value (order : ByteOrder) (bytes : List UInt8) : Nat :=
  let fromGreatest := match order with
    | .little => bytes.reverse
    | .big => bytes
  fromGreatest.foldl (fun value byte => 256 * value + byte.toNat) 0

def ByteOrder.name : ByteOrder → String
  | .little => "le"
  | .big => "be"

def readUnits16 (order : ByteOrder) :
    (position : Nat) → List UInt8 → Except DecodingFault (List Char)
  | _, [] => .ok []
  | position, [byte] => fault [byte] position .cutOff
  | position, left :: right :: rest =>
    let unit := order.value [left, right]
    if isSecondOfPair unit then fault [left, right] position .secondOfPair
    else if isFirstOfPair unit then
      match rest with
      | nextLeft :: nextRight :: rest =>
        let next := order.value [nextLeft, nextRight]
        if isSecondOfPair next then
          (readUnits16 order (position + 4) rest).map (pairCharacter unit next :: ·)
        else fault [left, right] position .firstOfPair
      | rest => fault (left :: right :: rest) position .pairCutOff
    else (readUnits16 order (position + 2) rest).map (Char.ofNat unit :: ·)
where
  /-- The fault that bytes bring about. -/
  fault (bytes : List UInt8) (position : Nat) (issue : ByteIssue) :
      Except DecodingFault (List Char) :=
    .error (.unreadable s!"utf-16-{order.name}" bytes position issue)

def readUnits32 (order : ByteOrder) :
    (position : Nat) → List UInt8 → Except DecodingFault (List Char)
  | _, [] => .ok []
  | position, first :: second :: third :: fourth :: rest =>
    let bytes := [first, second, third, fourth]
    let unit := order.value bytes
    if 0x110000 ≤ unit then fault bytes position .beyondUnicode
    else if isFirstOfPair unit || isSecondOfPair unit then fault bytes position .halfOfPair
    else (readUnits32 order (position + 4) rest).map (Char.ofNat unit :: ·)
  | position, bytes => fault bytes position .cutOff
where
  /-- The fault that bytes bring about. -/
  fault (bytes : List UInt8) (position : Nat) (issue : ByteIssue) :
      Except DecodingFault (List Char) :=
    .error (.unreadable s!"utf-32-{order.name}" bytes position issue)

/-- A text whose byte order is not fixed has to start with a mark, unless it is empty. Bytes that
spell a text in UTF-8 never do. -/
def unmarked (scheme : String) (text : List Char) : Except DecodingFault (List Char) :=
  if text.isEmpty then .ok [] else .error (.unmarked scheme)

end Attachments.Text
