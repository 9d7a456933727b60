/-!
Contract: texts with places that arguments fill.

Owns:
- the directives of a template: what a place asks for, and how it is to be laid out;
- how a template is cut into literal characters and directives.

Does not own: what stands in a place.
-/

namespace Attachments

namespace Template

/-- A width or a precision: a number in the template, or the next argument, for which a star
stands. -/
inductive Measure where
  | fixed (amount : Nat)
  | argument
  deriving DecidableEq, Repr

/-- The name of an argument, or the beginning of one that no parenthesis closes. -/
inductive Key where
  | named (name : String)
  | unclosed
  deriving DecidableEq, Repr

/-- How a value is to be shown: the character that says so, and its position in the template. -/
structure Conversion where
  character : Char
  index : Nat
  deriving DecidableEq, Repr

/-- A place in a template. It has no conversion if the template ends before it. -/
structure Directive where
  key? : Option Key
  flags : List Char
  width? : Option Measure
  precision? : Option Measure
  conversion? : Option Conversion
  deriving DecidableEq, Repr

/-- A part of a template. -/
inductive Part where
  | literal (character : Char)
  | place (directive : Directive)
  deriving DecidableEq, Repr

/-- The number that a text of digits stands for. -/
def numeralValue (digits : List Char) : Nat :=
  digits.foldl (fun value digit => 10 * value + (digit.toNat - 48)) 0

/-- The text up to the parenthesis that closes a name, and the text behind it. -/
def closedKey? (depth : Nat) : List Char → Option (List Char × List Char)
  | [] => none
  | '(' :: rest => (closedKey? (depth + 1) rest).map fun (key, after) => ('(' :: key, after)
  | ')' :: rest =>
    match depth with
    | 0 => some ([], rest)
    | depth + 1 => (closedKey? depth rest).map fun (key, after) => (')' :: key, after)
  | character :: rest =>
    (closedKey? depth rest).map fun (key, after) => (character :: key, after)

/-- Reads the name of an argument, if a directive begins with one. -/
def key : List Char → Option Key × List Char
  | '(' :: rest =>
    match closedKey? 0 rest with
    | some (name, after) => (some (.named (String.ofList name)), after)
    | none => (some .unclosed, [])
  | text => (none, text)

/-- Whether a character is a flag: left alignment, a sign or a blank before a number, the marked
form of a numeral, or zeros as filling. -/
def isFlag (character : Char) : Bool :=
  "-+ #0".toList.contains character

/-- Reads a measure, if there is one. -/
def measure : List Char → Option Measure × List Char
  | '*' :: rest => (some .argument, rest)
  | text =>
    let digits := text.takeWhile Char.isDigit
    (if digits.isEmpty then none else some (.fixed (numeralValue digits)),
      text.dropWhile Char.isDigit)

/-- Reads a precision, if a point announces one. A point alone stands for zero. -/
def precision : List Char → Option Measure × List Char
  | '.' :: rest =>
    let (precision?, after) := measure rest
    (some (precision?.getD (.fixed 0)), after)
  | text => (none, text)

/-- The text after one size letter, which says nothing about a number of any size. -/
def skipSize : List Char → List Char
  | [] => []
  | character :: rest => if "hlL".toList.contains character then rest else character :: rest

/-- Reads the conversion in a template of the given length. -/
def conversion (length : Nat) : List Char → Option Conversion × List Char
  | [] => (none, [])
  | character :: rest => (some ⟨character, length - rest.length - 1⟩, rest)

/-- Reads a directive in a template of the given length, behind its percent sign, and gives it with
the text behind it. -/
def directive (length : Nat) (text : List Char) : Directive × List Char :=
  let (key?, text) := key text
  let flags := text.takeWhile isFlag
  let (width?, text) := measure (text.dropWhile isFlag)
  let (precision?, text) := precision text
  let (conversion?, rest) := conversion length (skipSize text)
  (⟨key?, flags, width?, precision?, conversion?⟩, rest)

/-- The parts of the rest of a template of the given length, at most `count` of them. Two percent
signs in a row are one percent sign. -/
def partsWithin (length : Nat) : (count : Nat) → List Char → List Part
  | 0, _ => []
  | _, [] => []
  | count + 1, '%' :: '%' :: rest => .literal '%' :: partsWithin length count rest
  | count + 1, '%' :: rest =>
    let (directive, after) := directive length rest
    .place directive :: partsWithin length count after
  | count + 1, character :: rest => .literal character :: partsWithin length count rest

/-- The parts of a template. Each of them takes at least one character, so there are no more parts
than characters. -/
def parts (template : String) : List Part :=
  let text := template.toList
  partsWithin text.length text.length text

end Template

end Attachments
