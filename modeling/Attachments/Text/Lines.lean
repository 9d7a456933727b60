import Attachments.Text.Blank
import Attachments.Text.CodePoint

/-!
Contract: lines of a text that may be torn.

Owns:
- one spelling of line ends;
- blanks inside a line and at the end of a text, and what follows the rest of a line.

Does not own: what a line says.
-/

namespace Attachments.Text

/-- The text with every line end, of one or two characters, written as a newline. -/
def unifyLineEnds : Points → Points
  | [] => []
  | .character '\r' :: .character '\n' :: rest => .character '\n' :: unifyLineEnds rest
  | .character '\r' :: rest => .character '\n' :: unifyLineEnds rest
  | point :: rest => point :: unifyLineEnds rest

def isBlankPoint : CodePoint → Bool
  | .character character => isBlank character
  | .half _ => false

def isLineEnd (point : CodePoint) : Bool :=
  point == .character '\n'

def isInnerBlank (point : CodePoint) : Bool :=
  isBlankPoint point && !isLineEnd point

/-- The text after the blanks at its start, within the first line. -/
def skipInnerBlanks (text : Points) : Points :=
  text.dropWhile isInnerBlank

def trimEnd (text : Points) : Points :=
  (text.reverse.dropWhile isBlankPoint).reverse

def restOfLine (text : Points) : Points :=
  text.takeWhile (!isLineEnd ·)

def fromLineEnd (text : Points) : Points :=
  text.dropWhile (!isLineEnd ·)

def afterLine (text : Points) : Points :=
  (fromLineEnd text).drop 1

/-- The text after the first line, if nothing but blanks is left of it. -/
def afterBlankLine? (text : Points) : Option Points :=
  match skipInnerBlanks text with
  | [] => some []
  | .character '\n' :: rest => some rest
  | _ => none

end Attachments.Text
