import Attachments.Supplied.Text.Encoding.BigFive.Table
import Attachments.Supplied.Text.Encoding.Bytes
import Attachments.Supplied.Text.Encoding.Step

/-!
Contract: the encodings of Chinese texts in Taiwan and Hong Kong.

Owns:
- Big5, what Windows makes of it, and what Hong Kong adds.

Does not own: the tables.
-/

namespace Attachments.Text

def big5Cell? (second : Nat) : Option Nat :=
  if 0x40 ≤ second ∧ second ≤ 0x7E then some (second - 0x40)
  else if 0xA1 ≤ second ∧ second ≤ 0xFE then some (second - 0x62)
  else none

/-- The character of two bytes in a table. -/
def big5In? (runs : List TableRun) (first second : Nat) : Option Char :=
  (big5Cell? second).bind (cellOf? runs first)

/-- The characters of two bytes in Big5. -/
def big5Pair? (first second : Nat) : Option (List Char) :=
  (big5In? big5Runs first second).map ([·])

/-- The characters of two bytes in the code page of Windows. -/
def windowsBig5Pair? (first second : Nat) : Option (List Char) :=
  (big5In? windowsBig5Runs first second <|> big5In? big5Runs first second).map ([·])

/-- Whether Hong Kong has characters of its own in a part of Big5. -/
def isHongKong (first second : Nat) : Bool :=
  first == 0xC6 && 0xA1 ≤ second || first == 0xC7 || first == 0xC8

/-- The codes of the characters with two marks, which are two characters each. -/
def hongKongMarked? (first second : Nat) : Option (List Nat) :=
  match first, second with
  | 0x88, 0x62 => some [0xCA, 0x304]
  | 0x88, 0x64 => some [0xCA, 0x30C]
  | 0x88, 0xA3 => some [0xEA, 0x304]
  | 0x88, 0xA5 => some [0xEA, 0x30C]
  | _, _ => none

def hongKongPair? (first second : Nat) : Option (List Char) :=
  let inBig5 := if isHongKong first second then none else big5In? big5Runs first second
  match inBig5 <|> big5In? hongKongRuns first second with
  | some character => some [character]
  | none => (hongKongMarked? first second).map (·.map Char.ofNat)

/-- A step in an encoding in which two bytes stand for all but ASCII. -/
def twoByteStep
    (pair? : Nat → Nat → Option (List Char))
    (_ : Unit)
    (byte : UInt8)
    (rest : List UInt8) :
    ReadingStep Unit :=
  match asciiImage? byte with
  | some character => .single character
  | none => .pair (pair? byte.toNat) rest

end Attachments.Text
