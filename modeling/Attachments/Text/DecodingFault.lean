import Attachments.Text.CodePoint

/-!
Contract: what is wrong with bytes that do not stand for a text.

Owns:
- the kinds of issues and their reports;
- the reports of bytes that cannot be read.

Does not own: which bytes cannot be read.
-/

namespace Attachments.Text

/-- What is wrong with some bytes. -/
inductive ByteIssue where
  | beyondAscii
  | undefined
  | cutOff
  | pairCutOff
  | secondOfPair
  | firstOfPair
  | beyondUnicode
  | halfOfPair
  | noCharacter
  | characterCutOff
  | partialCharacter
  | paddingSet
  | badShift
  | shiftNotEnded
  | notSevenBit
  | escapeAtEnd
  | escapeCutOff (form : String)
  | badNameEscape
  | unknownName
  | noSuchCharacter
  | beyondRange
  deriving DecidableEq, Repr

/-- The report of what is wrong with bytes. -/
def ByteIssue.message : ByteIssue → String
  | .beyondAscii => "ordinal not in range(128)"
  | .undefined => "character maps to <undefined>"
  | .cutOff => "truncated data"
  | .pairCutOff => "unexpected end of data"
  | .secondOfPair => "illegal encoding"
  | .firstOfPair => "illegal UTF-16 surrogate"
  | .beyondUnicode => "code point not in range(0x110000)"
  | .halfOfPair => "code point in surrogate code point range"
  | .noCharacter => "illegal multibyte sequence"
  | .characterCutOff => "incomplete multibyte sequence"
  | .partialCharacter => "partial character in shift sequence"
  | .paddingSet => "non-zero padding bits in shift sequence"
  | .badShift => "ill-formed sequence"
  | .shiftNotEnded => "unterminated shift sequence"
  | .notSevenBit => "unexpected special character"
  | .escapeAtEnd => "\\ at end of string"
  | .escapeCutOff form => s!"truncated {form} escape"
  | .badNameEscape => "malformed \\N character escape"
  | .unknownName => "unknown Unicode character name"
  | .noSuchCharacter => "illegal Unicode character"
  | .beyondRange => "\\Uxxxxxxxx out of range"

/-- Why bytes cannot be read: some bytes at a position stand for nothing, there is no mark of the
byte order, no rule tells what bytes stand for, or nothing can be read in the encoding. -/
inductive DecodingFault where
  | unreadable (scheme : String) (bytes : List UInt8) (position : Nat) (issue : ByteIssue)
  | unmarked (scheme : String)
  | unruled
  | undefined
  deriving DecidableEq, Repr

/-- A byte in two hexadecimal digits. -/
def byteDigits (byte : UInt8) : String :=
  String.ofList [Nat.digitChar (byte.toNat / 16), Nat.digitChar (byte.toNat % 16)]

/-- The report of bytes that cannot be read. -/
def DecodingFault.message : DecodingFault → String
  | .unreadable scheme [byte] position issue =>
    s!"'{scheme}' codec can't decode byte 0x{byteDigits byte} in position {position}: "
      ++ issue.message
  | .unreadable scheme bytes position issue =>
    s!"'{scheme}' codec can't decode bytes in position "
      ++ s!"{position}-{position + bytes.length - 1}: {issue.message}"
  | .unmarked scheme => s!"{scheme} stream does not start with BOM"
  | .unruled => "internal codec error"
  | .undefined => "undefined encoding"

end Attachments.Text
