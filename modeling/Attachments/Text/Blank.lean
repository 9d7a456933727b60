import Attachments.Text.Ranges

/-!
Contract: which characters are blank.

Owns:
- the blank characters: the Unicode property and the four information separators.

Does not own: where lines end.
-/

namespace Attachments.Text

def blankRanges : List CodeRange :=
  [ ⟨0x09, 0x0D⟩, ⟨0x1C, 0x20⟩, ⟨0x85, 0x85⟩, ⟨0xA0, 0xA0⟩, ⟨0x1680, 0x1680⟩,
    ⟨0x2000, 0x200A⟩, ⟨0x2028, 0x2029⟩, ⟨0x202F, 0x202F⟩, ⟨0x205F, 0x205F⟩, ⟨0x3000, 0x3000⟩ ]

def isBlank (character : Char) : Bool :=
  inRanges character.toNat blankRanges

end Attachments.Text
