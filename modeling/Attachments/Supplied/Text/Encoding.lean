import Attachments.Supplied.Text.Encoding.Escape
import Attachments.Supplied.Text.Encoding.Table
import Attachments.Supplied.Text.Encoding.Utf7

/-!
Contract: bytes read as text.

Owns:
- the normal form of the names of encodings, and the encoding of a name;
- the reading of a text in UTF-8 as if it were in another encoding;
- that a text in ASCII reads as itself in ASCII.

Does not own: where the bytes come from, and how each encoding is read.
-/

namespace Attachments.Text

/-! ## Names -/

/-- The normal form of the rest of a name, where `broken` tells whether anything but a letter, a
digit or a point stands right before it, and `started` whether one of these came earlier. -/
def normalFrom (broken started : Bool) : List Char → List Char
  | [] => []
  | character :: rest =>
    if character.isAlphanum || character == '.' then
      let name := character.toLower :: normalFrom false true rest
      if broken && started then '_' :: name else name
    else normalFrom true started rest

/-- The normal form of a name: ASCII letters in lower case, digits and points, and one low line for
whatever stands between them. -/
def normalName (name : String) : String :=
  String.ofList (normalFrom false false name.toList)

/-- A name with low lines for points. -/
def withoutPoints (name : String) : String :=
  name.map fun character => if character = '.' then '_' else character

/-- Whether a name in normal form is one of the encoding. -/
def EncodingEntry.isNamed (entry : EncodingEntry) (name : String) : Bool :=
  entry.names.contains name
    || entry.furtherNames.contains name
    || entry.furtherNames.contains (withoutPoints name)

def Encoding.ofName? (name : String) : Option Encoding :=
  (encodingEntries.find? (·.isNamed (normalName name))).map (·.encoding)

/-- Whether a name is that of a transform which is no encoding of texts. -/
def isTransform (name : String) : Bool :=
  let normal := normalName name
  transformNames.contains normal || transformNames.contains (withoutPoints normal)

/-! ## Texts -/

def withoutMark : List Char → List Char
  | '\ufeff' :: rest => rest
  | text => text

/-- The characters that bytes stand for in an encoding, which in a few of them may be torn. UTF-8 is
read from the text that the bytes spell. -/
def Encoding.reread (encoding : Encoding) (text : String) :
    Except DecodingFault (List CodePoint) :=
  let bytes := utf8Bytes text
  let whole (read : Except DecodingFault (List Char)) := read.map (·.map .character)
  match encoding with
  | .utf8 => whole (.ok text.toList)
  | .utf8Marked => whole (.ok (withoutMark text.toList))
  | .utf7 => readUtf7 0 none bytes
  | .utf16 (some order) => whole (readUnits16 order 0 bytes)
  | .utf16 none => whole (readUnits16 .little 0 bytes >>= unmarked "UTF-16")
  | .utf32 (some order) => whole (readUnits32 order 0 bytes)
  | .utf32 none => whole (readUnits32 .little 0 bytes >>= unmarked "UTF-32")
  | .ascii => whole (readAscii bytes)
  | .latin1 => whole (.ok (bytes.map latin1Image))
  | .escapes => readEscapes "unicodeescape" Escape.ofBytes 0 bytes
  | .plainEscapes => readEscapes "rawunicodeescape" Escape.plainOfBytes 0 bytes
  | .undefined => .error .undefined
  | .codePage page => whole (page.read bytes)
  | .pairs encoding => whole (encoding.read bytes)
  | .hz => whole (readSteps "hz" hzStep false 0 bytes)
  | .switching encoding => whole (encoding.read bytes)

/-- A text in ASCII reads as itself in ASCII. -/
theorem reread_ascii_of_ascii
    {text : String}
    (small : ∀ character ∈ text.toList, character.toNat < 0x80) :
    Encoding.ascii.reread text = .ok (text.toList.map .character) := by
  change (readAscii (utf8Bytes text)).map _ = _
  rw [readAscii_of_ascii small]
  rfl

end Attachments.Text
