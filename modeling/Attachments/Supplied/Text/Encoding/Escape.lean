import Attachments.Text.CodePoint
import Attachments.Supplied.Text.Encoding.Bytes

/-!
Contract: texts in Latin-1 in which a backslash announces another character.

Owns:
- the escapes by a letter and by octal or hexadecimal digits;
- what is wrong with an escape, and how far it reaches;
- the plain form, which knows only the two longer hexadecimal escapes;
- that halves of pairs stay apart.

Does not own: the names of characters.
-/

namespace Attachments.Text

/-- What the bytes behind a backslash stand for, or what is wrong with them, and how many of them
belong to the escape. -/
inductive Escape where
  | reads (text : List CodePoint) (length : Nat)
  | fails (issue : ByteIssue) (length : Nat)
  deriving DecidableEq, Repr

namespace Escape

def hexadecimalValue? (byte : UInt8) : Option Nat :=
  let code := byte.toNat
  if 0x30 ≤ code ∧ code ≤ 0x39 then some (code - 0x30)
  else if 0x41 ≤ code ∧ code ≤ 0x46 then some (code - 0x41 + 10)
  else if 0x61 ≤ code ∧ code ≤ 0x66 then some (code - 0x61 + 10)
  else none

def octalValue? (byte : UInt8) : Option Nat :=
  if 0x30 ≤ byte ∧ byte ≤ 0x37 then some (byte.toNat - 0x30) else none

/-- The values of the digits at the start of the bytes, at most `count` of them. -/
def leadingValues (value? : UInt8 → Option Nat) : (count : Nat) → List UInt8 → List Nat
  | 0, _ | _, [] => []
  | count + 1, byte :: rest =>
    match value? byte with
    | some value => value :: leadingValues value? count rest
    | none => []

def number (base : Nat) (digits : List Nat) : Nat :=
  digits.foldl (fun number digit => base * number + digit) 0

/-- The escape of one character. -/
def single (code length : Nat) : Escape :=
  .reads [.ofNat code] length

/-- The escape of a letter and `count` hexadecimal digits, which must not go beyond the last
character. -/
def hexadecimal (form : String) (count : Nat) (beyond : ByteIssue) (digits : List UInt8) :
    Escape :=
  let values := leadingValues hexadecimalValue? count digits
  if values.length < count then .fails (.escapeCutOff form) (values.length + 1)
  else
    let code := number 16 values
    if 0x10FFFF < code then .fails beyond (count + 1) else single code (count + 1)

/-- The escape of a name in braces. No character is found by its name. -/
def name : List UInt8 → Escape
  | 0x7B :: rest =>
    let bytes := rest.takeWhile (· != 0x7D)
    if bytes.length = rest.length then .fails .badNameEscape (rest.length + 2)
    else if bytes.isEmpty then .fails .badNameEscape 2
    else .fails .unknownName (bytes.length + 3)
  | _ => .fails .badNameEscape 1

/-- The code of the character that a letter or a sign stands for. -/
def letterCode? (byte : UInt8) : Option Nat :=
  match latin1Image byte with
  | '\\' | '\'' | '"' => some byte.toNat
  | 'a' => some 0x07
  | 'b' => some 0x08
  | 't' => some 0x09
  | 'n' => some 0x0A
  | 'v' => some 0x0B
  | 'f' => some 0x0C
  | 'r' => some 0x0D
  | _ => none

/-- The escape of the bytes behind a backslash. The end of a line stands for nothing, and a
backslash before anything unknown stands for itself. -/
def ofBytes : List UInt8 → Escape
  | [] => .fails .escapeAtEnd 0
  | byte :: rest =>
    match letterCode? byte with
    | some code => single code 1
    | none =>
      if byte = 0x0A then .reads [] 1
      else if byte = 0x78 then hexadecimal "\\xXX" 2 .noSuchCharacter rest
      else if byte = 0x75 then hexadecimal "\\uXXXX" 4 .noSuchCharacter rest
      else if byte = 0x55 then hexadecimal "\\UXXXXXXXX" 8 .noSuchCharacter rest
      else if byte = 0x4E then name rest
      else
        match leadingValues octalValue? 3 (byte :: rest) with
        | [] => .reads [.character '\\', .character (latin1Image byte)] 1
        | values => single (number 8 values) values.length

def plainOfBytes : List UInt8 → Escape
  | [] => .reads [.character '\\'] 0
  | byte :: rest =>
    if byte = 0x75 then hexadecimal "\\uXXXX" 4 .beyondRange rest
    else if byte = 0x55 then hexadecimal "\\UXXXXXXXX" 8 .beyondRange rest
    else .reads [.character '\\', .character (latin1Image byte)] 1

end Escape

def readEscapes
    (scheme : String)
    (escape : List UInt8 → Escape)
    (position : Nat) :
    List UInt8 → Except DecodingFault (List CodePoint)
  | [] => .ok []
  | byte :: rest =>
    if byte = 0x5C then
      match escape rest with
      | .reads text length =>
        (readEscapes scheme escape (position + length + 1) (rest.drop length)).map (text ++ ·)
      | .fails issue length =>
        .error (.unreadable scheme (byte :: rest.take length) position issue)
    else
      (readEscapes scheme escape (position + 1) rest).map (.character (latin1Image byte) :: ·)
termination_by bytes => bytes.length
decreasing_by
  all_goals
    simp only [List.length_cons, List.length_drop]
    omega

end Attachments.Text
