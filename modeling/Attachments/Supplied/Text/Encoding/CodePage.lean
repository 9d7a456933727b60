import Attachments.Supplied.Text.Encoding.Bytes

/-!
Contract: code pages, which give each byte a character.

Owns:
- the characters of a code page, in rows of sixteen;
- the reading of bytes in a code page.

Does not own: any particular code page.
-/

namespace Attachments.Text

/-- A code page: the rows of characters of the bytes below 0x80, unless these are ASCII, and of the
others. A mark of replacement stands for nothing. -/
structure CodePage where
  low : List String
  high : List String
  deriving DecidableEq, Repr

namespace CodePage

/-- The character of a byte in rows of sixteen. -/
def inRows? (rows : List String) (index : Nat) : Option Char :=
  (rows[index / 16]?.bind fun row => row.toList[index % 16]?).filter (· != '\ufffd')

/-- The character of a byte. -/
def image? (page : CodePage) (byte : UInt8) : Option Char :=
  if 0x80 ≤ byte then inRows? page.high (byte.toNat - 0x80)
  else if page.low.isEmpty then asciiImage? byte
  else inRows? page.low byte.toNat

def read (page : CodePage) (bytes : List UInt8) : Except DecodingFault (List Char) :=
  readBytes "charmap" .undefined page.image? 0 bytes

end CodePage

end Attachments.Text
