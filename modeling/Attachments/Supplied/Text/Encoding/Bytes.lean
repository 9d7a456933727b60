import Attachments.Text.DecodingFault

/-!
Contract: texts of which each byte is a character.

Owns:
- the bytes of a text in UTF-8;
- the reading of bytes one by one, and the first byte that stands for nothing;
- ASCII and Latin-1, and that a text in ASCII reads as itself in ASCII.

Does not own: the other encodings.
-/

namespace Attachments.Text

def utf8Bytes (text : String) : List UInt8 :=
  text.toList.flatMap String.utf8EncodeChar

/-- Reads bytes one by one, the first of which stands at `position`. -/
def readBytes
    (scheme : String)
    (issue : ByteIssue)
    (image? : UInt8 → Option Char) :
    (position : Nat) → List UInt8 → Except DecodingFault (List Char)
  | _, [] => .ok []
  | position, byte :: rest =>
    match image? byte with
    | some character => (readBytes scheme issue image? (position + 1) rest).map (character :: ·)
    | none => .error (.unreadable scheme [byte] position issue)

def latin1Image (byte : UInt8) : Char :=
  Char.ofNat byte.toNat

def asciiImage? (byte : UInt8) : Option Char :=
  if byte < 0x80 then some (latin1Image byte) else none

def readAscii (bytes : List UInt8) : Except DecodingFault (List Char) :=
  readBytes "ascii" .beyondAscii asciiImage? 0 bytes

/-! ## Texts in ASCII -/

/-- A character of ASCII is one byte. -/
theorem utf8EncodeChar_of_ascii {character : Char} (small : character.toNat < 0x80) :
    String.utf8EncodeChar character = [UInt8.ofNat character.toNat] := by
  have code : character.toNat ≤ 127 := by omega
  simp [String.utf8EncodeChar, code]

/-- The byte of a character of ASCII has the number of the character. -/
theorem toNat_ofNat_of_ascii {character : Char} (small : character.toNat < 0x80) :
    (UInt8.ofNat character.toNat).toNat = character.toNat := by
  rw [UInt8.toNat_ofNat']
  omega

/-- The image of such a byte is the character. -/
theorem asciiImage?_of_ascii {character : Char} (small : character.toNat < 0x80) :
    asciiImage? (UInt8.ofNat character.toNat) = some character := by
  have below : UInt8.ofNat character.toNat < 0x80 := by
    rw [UInt8.lt_iff_toNat_lt, toNat_ofNat_of_ascii small]
    exact small
  rw [asciiImage?, if_pos below, latin1Image, toNat_ofNat_of_ascii small, Char.ofNat_toNat]

/-- Bytes of ASCII are read one by one wherever each has the right image. -/
theorem readBytes_of_ascii
    (scheme : String)
    (issue : ByteIssue)
    {image? : UInt8 → Option Char}
    {text : List Char}
    (images : ∀ character ∈ text, image? (UInt8.ofNat character.toNat) = some character)
    (position : Nat) :
    readBytes scheme issue image? position (text.map fun character => .ofNat character.toNat) =
      .ok text := by
  induction text generalizing position with
  | nil => rfl
  | cons character rest inductionHypothesis =>
    have first := images character List.mem_cons_self
    have others :=
      inductionHypothesis (fun other member => images other (.tail _ member)) (position + 1)
    simp [readBytes, first, others, Except.map]

theorem utf8Bytes_of_ascii
    {text : String}
    (small : ∀ character ∈ text.toList, character.toNat < 0x80) :
    utf8Bytes text = text.toList.map fun character => .ofNat character.toNat := by
  unfold utf8Bytes
  generalize text.toList = characters at small
  induction characters with
  | nil => rfl
  | cons character rest inductionHypothesis =>
    rw [List.flatMap_cons, utf8EncodeChar_of_ascii (small character List.mem_cons_self),
      inductionHypothesis fun other member => small other (.tail _ member)]
    rfl

theorem readAscii_of_ascii
    {text : String}
    (small : ∀ character ∈ text.toList, character.toNat < 0x80) :
    readAscii (utf8Bytes text) = .ok text.toList := by
  rw [readAscii, utf8Bytes_of_ascii small]
  exact readBytes_of_ascii _ _
    (fun character member => asciiImage?_of_ascii (small character member)) 0

end Attachments.Text
