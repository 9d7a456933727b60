import Attachments.Datum.Basic
import Attachments.Fields
import Attachments.Text.CodePoint

/-!
Contract: reading JSON text.

Owns:
- strings with all their escapes, where a pair of units makes up one character;
- numbers: integers, and those with a fraction or an exponent, which are read as the nearest number
  of double precision;
- lists and objects, where a repeated name keeps its first place and takes its last value;
- whole texts, which hold one value between blanks.

Does not own: numbers that are too great, and torn strings: a text that holds one of these is not
read, like a text that is no JSON.
-/

namespace Attachments

namespace Json

/-- What reads a value from the front of a text and leaves the rest. -/
abbrev FrontReader (Value : Type) :=
  List Char → Option (Value × List Char)

/-! ## Marks -/

/-- The blanks between the parts of a text. -/
def isBlank (character : Char) : Bool :=
  character == ' ' || character == '\t' || character == '\n' || character == '\r'

/-- The text behind a mark, in front of which blanks may stand. -/
def behind? (mark : Char) (text : List Char) : Option (List Char) :=
  match text.dropWhile isBlank with
  | [] => none
  | character :: rest => if character = mark then some rest else none

/-- The text behind a word, in front of which blanks may stand. -/
def behindWord? (word : String) (text : List Char) : Option (List Char) :=
  let text := text.dropWhile isBlank
  if word.toList.isPrefixOf text then some (text.drop word.toList.length) else none

/-! ## Strings -/

/-- The value of a hexadecimal digit, in either case. -/
def hexValue? (digit : Char) : Option Nat :=
  if '0' ≤ digit ∧ digit ≤ '9' then some (digit.toNat - '0'.toNat)
  else if 'a' ≤ digit ∧ digit ≤ 'f' then some (digit.toNat - 'a'.toNat + 10)
  else if 'A' ≤ digit ∧ digit ≤ 'F' then some (digit.toNat - 'A'.toNat + 10)
  else none

/-- The number that hexadecimal digits write. -/
def hexNumber? (digits : List Char) : Option Nat :=
  digits.foldlM (fun sofar digit => (hexValue? digit).map (16 * sofar + ·)) 0

def shortEscape? (mark : Char) : Option Char :=
  match mark with
  | '"' => some '"'
  | '\\' => some '\\'
  | '/' => some '/'
  | 'b' => some '\x08'
  | 'f' => some '\x0c'
  | 'n' => some '\n'
  | 'r' => some '\r'
  | 't' => some '\t'
  | _ => none

/-- What an escape stands for, behind its backslash. -/
def escaped? : FrontReader Text.CodePoint
  | [] => none
  | mark :: rest =>
    if mark = 'u' then
      if rest.length < 4 then none
      else (hexNumber? (rest.take 4)).map fun unit => (.ofNat unit, rest.drop 4)
    else (shortEscape? mark).map fun character => (.character character, rest)

/-- One code point of a string, perhaps escaped. Control characters must be. -/
def codePoint? : FrontReader Text.CodePoint
  | [] => none
  | character :: rest =>
    if character = '\\' then escaped? rest
    else if character < ' ' then none
    else some (.character character, rest)

/-- The code points of a string up to the mark that ends it. Every one takes up some fuel. -/
def codePoints? : (fuel : Nat) → FrontReader Text.Points
  | 0, _ => none
  | fuel + 1, text =>
    if text.head? = some '"' then some ([], text.tail)
    else do
      let (point, rest) ← codePoint? text
      (codePoints? fuel rest).map fun (points, rest) => (point :: points, rest)

/-- The code points of a text in which each first half of a pair is put together with the second
half behind it. -/
def joined : Text.Points → Text.Points
  | .half first :: .half second :: rest =>
    if Text.isFirstOfPair first && Text.isSecondOfPair second then
      .character (Text.pairCharacter first second) :: joined rest
    else .half first :: joined (.half second :: rest)
  | point :: rest => point :: joined rest
  | [] => []

/-- A string behind its first mark, unless it is torn. -/
def string? (fuel : Nat) : FrontReader String := fun text => do
  let (points, rest) ← codePoints? fuel text
  let string ← Text.CodePoint.whole? (joined points)
  some (string, rest)

/-! ## Numbers -/

/-- Decimal digits, at least one. -/
def digits? : FrontReader (List Char) := fun text =>
  let digits := text.takeWhile Char.isDigit
  if digits = [] then none else some (digits, text.dropWhile Char.isDigit)

/-- Decimal digits without a zero in front of others. -/
def whole? : FrontReader (List Char) := fun text => do
  let (digits, rest) ← digits? text
  if digits.head? = some '0' ∧ digits ≠ ['0'] then none else some (digits, rest)

/-- The digits behind a point, if there is one. -/
def fraction? : FrontReader (List Char)
  | '.' :: rest => digits? rest
  | rest => some ([], rest)

/-- A power of ten behind its mark. -/
def signedPower? : FrontReader Int
  | '-' :: rest => (digits? rest).map fun (digits, rest) => (-Nat.ofDigitChars 10 digits 0, rest)
  | '+' :: rest => (digits? rest).map fun (digits, rest) => (Nat.ofDigitChars 10 digits 0, rest)
  | rest => (digits? rest).map fun (digits, rest) => (Nat.ofDigitChars 10 digits 0, rest)

/-- The power of ten of a number, if one is written. -/
def power? : FrontReader (Option Int)
  | 'e' :: rest => (signedPower? rest).map fun (power, rest) => (some power, rest)
  | 'E' :: rest => (signedPower? rest).map fun (power, rest) => (some power, rest)
  | rest => some (none, rest)

/-- The number of a sign and a numeral: an integer, unless places or a power of ten are written. -/
def numberOf? (isNegative : Bool) (numeral : Numeral.Decimal) : Option Datum :=
  if numeral.fraction = [] ∧ numeral.power? = none then
    let amount : Int := Nat.ofDigitChars 10 numeral.whole 0
    some (.int (if isNegative then -amount else amount))
  else
    (Numeral.Double.nearest? isNegative
      (Nat.ofDigitChars 10 (numeral.whole ++ numeral.fraction) 0)
      (numeral.power?.getD 0 - numeral.fraction.length)).map .real

def signed? (isNegative : Bool) : FrontReader Datum := fun text => do
  let (whole, rest) ← whole? text
  let (fraction, rest) ← fraction? rest
  let (power, rest) ← power? rest
  (numberOf? isNegative ⟨whole, fraction, power⟩).map fun number => (number, rest)

def number? : FrontReader Datum := fun text =>
  match behind? '-' text with
  | some rest => signed? true rest
  | none => signed? false (text.dropWhile isBlank)

/-! ## Lists and objects -/

section Elements

variable {Element : Type} (element? : FrontReader Element) (close : Char)

/-- Elements between commas up to the mark that ends them. There is at least one, and each takes
up some fuel. -/
def someElements? : (fuel : Nat) → FrontReader (List Element)
  | 0, _ => none
  | fuel + 1, text => do
    let (element, rest) ← element? text
    match behind? close rest with
    | some rest => some ([element], rest)
    | none =>
      let rest ← behind? ',' rest
      (someElements? fuel rest).map fun (others, rest) => (element :: others, rest)

/-- Elements up to the mark that ends them. -/
def elements? (fuel : Nat) : FrontReader (List Element) := fun text =>
  match behind? close text with
  | some rest => some ([], rest)
  | none => someElements? element? close fuel text

end Elements

/-- A member of an object: a name, a colon and a value. -/
def member? (value? : FrontReader Datum) (fuel : Nat) : FrontReader (String × Datum) :=
  fun text => do
    let rest ← behind? '"' text
    let (name, rest) ← string? fuel rest
    let rest ← behind? ':' rest
    let (value, rest) ← value? rest
    some ((name, value), rest)

def objectOf (members : List (String × Datum)) : Datum :=
  .dict ((Fields.ofPairs members).map fun member => (.text member.1, member.2))

/-! ## Values -/

/-- A value that no mark begins. -/
def bare? : FrontReader Datum := fun text =>
  match behindWord? "null" text with
  | some rest => some (.null, rest)
  | none =>
    match behindWord? "true" text with
    | some rest => some (.bool true, rest)
    | none =>
      match behindWord? "false" text with
      | some rest => some (.bool false, rest)
      | none => number? text

/-- A value. The fuel bounds how deep values stand in each other, how many elements stand side by
side, and how long strings are; the length of the text suffices for all of these. -/
def value? : (fuel : Nat) → FrontReader Datum
  | 0, _ => none
  | fuel + 1, text =>
    match behind? '"' text with
    | some rest => (string? fuel rest).map fun (string, rest) => (.text string, rest)
    | none =>
      match behind? '[' text with
      | some rest =>
        (elements? (value? fuel) ']' fuel rest).map fun (items, rest) => (.list items, rest)
      | none =>
        match behind? '\x7b' text with
        | some rest =>
          (elements? (member? (value? fuel) fuel) '\x7d' fuel rest).map fun (members, rest) =>
            (objectOf members, rest)
        | none => bare? text

/-- The value of a whole text, behind which blanks may stand. -/
def read? (text : String) : Option Datum :=
  match value? text.length text.toList with
  | some (value, rest) => if rest.all isBlank then some value else none
  | none => none

end Json

end Attachments
