import Attachments.Text.Printable

/-!
Contract: quoted text, in which every character is printable and from which the text can be read
back.

Owns:
- the choice of the quotation mark;
- the escape of each character: the mark and the backslash, three short escapes, and
  hexadecimal escapes of two, four or eight digits for the other characters that are not
  printable;
- the form of a text in which hexadecimal escapes stand for all characters beyond ASCII;
- fixed-width hexadecimal numerals.

Does not own: which characters are printable.
-/

namespace Attachments.Text

/-- A hexadecimal digit in lower case. -/
def hexDigit (value : Nat) : Char :=
  if value < 10 then Char.ofNat (48 + value) else Char.ofNat (87 + value)

/-- The last `width` hexadecimal digits of a number. -/
def hexDigits : (width : Nat) → (value : Nat) → List Char
  | 0, _ => []
  | width + 1, value => hexDigits width (value / 16) ++ [hexDigit (value % 16)]

/-- Double marks are used only for a text that holds a single mark and no double one. -/
def quotationMark (text : List Char) : Char :=
  if '\'' ∈ text ∧ '"' ∉ text then '"' else '\''

/-- The hexadecimal escape of a character, the narrowest that holds its code point. -/
def hexEscape (character : Char) : List Char :=
  if character.toNat ≤ 0xFF then '\\' :: 'x' :: hexDigits 2 character.toNat
  else if character.toNat ≤ 0xFFFF then '\\' :: 'u' :: hexDigits 4 character.toNat
  else '\\' :: 'U' :: hexDigits 8 character.toNat

/-- One character inside quotation marks. -/
def escape (mark character : Char) : List Char :=
  if character = mark ∨ character = '\\' then ['\\', character]
  else if character = '\n' then ['\\', 'n']
  else if character = '\r' then ['\\', 'r']
  else if character = '\t' then ['\\', 't']
  else if isPrintable character then [character]
  else hexEscape character

def quoteWith (mark : Char) (text : List Char) : List Char :=
  mark :: text.flatMap (escape mark) ++ [mark]

def quote (text : String) : String :=
  String.ofList (quoteWith (quotationMark text.toList) text.toList)

/-- A text in which hexadecimal escapes stand for the characters beyond ASCII. -/
def asciiOnly (text : String) : String :=
  String.ofList (text.toList.flatMap fun character =>
    if character.toNat < 0x80 then [character] else hexEscape character)

end Attachments.Text
