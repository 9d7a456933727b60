import Attachments.Datum.Literal
import Attachments.Event.Template.Basic
import Attachments.Fault
import Attachments.Numeral.Decimal
import Attachments.Text.CodePoint

/-!
Contract: values laid out in the places of a template.

Owns:
- the conversions of values to text, characters and numerals;
- how a width, a precision and flags shape each of them.

Does not own: where the values come from.
-/

namespace Attachments

namespace Template

/-- How a value is laid out: the flags, the least width, and the precision if one is given. -/
structure Layout where
  flags : List Char
  width : Nat
  precision? : Option Nat
  deriving DecidableEq, Repr

/-- The forms of real numbers. -/
inductive RealForm where
  | fixed
  | scientific
  | general
  deriving DecidableEq, Repr

/-- The number of characters from which on a text is too long to be held. -/
def tooLong : Nat :=
  0x1000000000

def greatestPrecision : Nat :=
  0x7FFFFFFF

/-- The greatest number of digits that can be asked of a whole number. -/
def greatestDigits : Nat :=
  0x7FFFFFFC

namespace Layout

/-- Whether a flag is set. -/
def has (layout : Layout) (flag : Char) : Bool :=
  layout.flags.contains flag

def fill {Symbol : Type} (layout : Layout) (filling : Symbol) (head rest : List Symbol) :
    Except Fault (List Symbol) :=
  if tooLong ≤ layout.width then .error .textTooLong
  else
    .ok (head ++ List.replicate (layout.width - head.length - rest.length) filling ++ rest)

/-- A text brought to the width by blanks. -/
def pad {Symbol : Type} (layout : Layout) (blank : Symbol) (text : List Symbol) :
    Except Fault (List Symbol) :=
  if layout.has '-' then layout.fill blank text [] else layout.fill blank [] text

/-- A numeral brought to the width. Its sign and its mark stand before the zeros that fill it
up. -/
def padNumeral (layout : Layout) (negative : Bool) (mark digits : List Char) :
    Except Fault (List Char) :=
  let sign :=
    if negative then ['-']
    else if layout.has '+' then ['+']
    else if layout.has ' ' then [' ']
    else []
  if layout.has '0' && !layout.has '-' then layout.fill '0' (sign ++ mark) digits
  else layout.pad ' ' (sign ++ mark ++ digits)

/-- A text in a place. The precision is the greatest number of characters. -/
def showText (layout : Layout) (text : String) : Except Fault (List Char) :=
  let characters := text.toList
  layout.pad ' ' (match layout.precision? with
    | some most => characters.take most
    | none => characters)

/-- A whole number in a place. The precision is the least number of digits, of which a decimal
numeral cannot have too many. -/
def showInteger (layout : Layout) (base : Nat) (mark : List Char) (value : Int) :
    Except Fault (List Char) :=
  let least := layout.precision?.getD 0
  if greatestDigits < least then .error .precisionBeyondDigits
  else
    match if base = 10 then Datum.digitObstacle? value else none with
    | some reason => .error (.unwritable reason)
    | none =>
      layout.padNumeral (decide (value < 0)) (if layout.has '#' then mark else [])
        (Numeral.wholeDigits base least value.natAbs)

/-- The sign and the ticks of a number. An integer is rounded to 53 binary digits. -/
def realTicks (value : Datum) : Except Fault (Bool × Nat) :=
  match value with
  | .real number => .ok (number.isNegative, number.ticks)
  | other =>
    match other.integer? with
    | none => .error (.notRealNumber other.kind)
    | some number =>
      let ticks := Numeral.nearestTicks number.natAbs 0
      if Numeral.ticksBeyond ≤ ticks then .error .beyondReals
      else .ok (decide (number < 0), ticks)

/-- A number in a place in one of the forms of real numbers. The precision is the number of places,
six if none is given; in the general form it is the number of digits, at least one. The greatest
precision leaves no place before a power of ten. -/
def showReal (layout : Layout) (form : RealForm) (value : Datum) : Except Fault (List Char) := do
  let (negative, ticks) ← realTicks value
  let amount := Numeral.Double.decimalAmount ticks
  let precision := layout.precision?.getD 6
  let marked := layout.has '#'
  let decimal := match form with
    | .scientific =>
      Numeral.Decimal.scientific (if precision = greatestPrecision then 0 else precision)
        Numeral.tickPlace amount
    | .general => Numeral.Decimal.general (max 1 precision) Numeral.tickPlace amount marked
    | .fixed => Numeral.Decimal.fixed precision Numeral.tickPlace amount
  layout.padNumeral negative [] (decimal.text marked)

/-- A code point in place: the character that is given, or what a number stands for, which may be
half of a pair. -/
def showCharacter (layout : Layout) : Datum → Except Fault Text.Points
  | .text text =>
    match text.toList with
    | [character] => layout.pad (.character ' ') [.character character]
    | _ => .error .notCharacter
  | value =>
    match value.integer? with
    | none => .error .notCharacter
    | some code =>
      if code < 0 ∨ 0x110000 ≤ code then .error .noSuchCharacter
      else layout.pad (.character ' ') [.ofNat code.toNat]

/-- The whole number in a numeric value, without what stands behind the point. -/
def truncated? (value : Datum) : Option Int :=
  match value with
  | .real number => some (Int.tdiv number.amount (Numeral.wholeTicks 1))
  | other => other.integer?

/-- A number in a place, without what stands behind its point. -/
def showTruncated (layout : Layout) (letter : Char) (value : Datum) : Except Fault (List Char) :=
  match truncated? value with
  | some number => layout.showInteger 10 [] number
  | none => .error (.notNumber letter value.kind)

/-- A whole number in a place, in a base that has a mark. -/
def showBased
    (layout : Layout)
    (letter : Char)
    (base : Nat)
    (mark : List Char)
    (value : Datum) :
    Except Fault (List Char) :=
  match value.integer? with
  | some number => layout.showInteger base mark number
  | none => .error (.notInteger letter value.kind)

/-- A shown numeral in capital letters. -/
def capitals (shown : Except Fault (List Char)) : Except Fault (List Char) :=
  shown.map fun digits => digits.map Char.toUpper

/-- A value in a place as a whole text, by a conversion that is not the one for single
characters. -/
def displayWhole (layout : Layout) (conversion : Conversion) (value : Datum) :
    Except Fault (List Char) :=
  match conversion.character with
  | 's' => value.plainText >>= layout.showText
  | 'r' => value.literalText >>= layout.showText
  | 'a' => value.literalText >>= fun text => layout.showText (Text.asciiOnly text)
  | 'd' => layout.showTruncated 'd' value
  | 'i' => layout.showTruncated 'i' value
  | 'u' => layout.showTruncated 'u' value
  | 'o' => layout.showBased 'o' 8 ['0', 'o'] value
  | 'x' => layout.showBased 'x' 16 ['0', 'x'] value
  | 'X' => capitals (layout.showBased 'X' 16 ['0', 'x'] value)
  | 'e' => layout.showReal .scientific value
  | 'E' => capitals (layout.showReal .scientific value)
  | 'f' => layout.showReal .fixed value
  | 'F' => capitals (layout.showReal .fixed value)
  | 'g' => layout.showReal .general value
  | 'G' => capitals (layout.showReal .general value)
  | letter => .error (.unknownDirective letter conversion.index)

/-- A value in a place. -/
def display (layout : Layout) (conversion : Conversion) (value : Datum) :
    Except Fault Text.Points :=
  if conversion.character = 'c' then layout.showCharacter value
  else (layout.displayWhole conversion value).map (·.map .character)

end Layout

end Template

end Attachments
