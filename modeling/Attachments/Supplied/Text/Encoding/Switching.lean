import Attachments.Supplied.Text.Encoding.Chinese
import Attachments.Supplied.Text.Encoding.CodePage.Table
import Attachments.Supplied.Text.Encoding.Japanese
import Attachments.Supplied.Text.Encoding.Korean

/-!
Contract: encodings of seven bits that switch between character sets.

Owns:
- the character sets that can be switched to, with their marks;
- the sequences that switch, and what is wrong with those that do not;
- the Japanese encodings and the Korean one, and the sets that each of them knows.

Does not own: the characters of the sets.
-/

namespace Attachments.Text

/-! ## Character sets -/

/-- A character set that a text can switch to. -/
inductive CharacterSet where
  | ascii
  | latin1
  | greek
  | japaneseRoman
  | katakana
  | jisX0208
  | earlyJisX0208
  | jisX0212
  | jisX0213 (issue : JisX0213Issue)
  | jisX0213Second
  | gb2312
  | ksX1001
  deriving DecidableEq, Repr

namespace CharacterSet

/-- The byte that marks the set in a sequence that switches to it. -/
def mark : CharacterSet → UInt8
  | .latin1 | .gb2312 => 0x41
  | .ascii | .jisX0208 => 0x42
  | .ksX1001 => 0x43
  | .jisX0212 => 0x44
  | .greek => 0x46
  | .katakana => 0x49
  | .japaneseRoman => 0x4A
  | .jisX0213 .of2000 => 0x4F
  | .jisX0213 .of2004 => 0x51
  | .jisX0213Second => 0x50
  | .earlyJisX0208 => 0x40

/-- Whether the characters of the set take two bytes. -/
def isDouble : CharacterSet → Bool
  | .ascii | .latin1 | .greek | .japaneseRoman | .katakana => false
  | _ => true

def single? : CharacterSet → UInt8 → Option Char
  | .ascii, byte => asciiImage? byte
  | .japaneseRoman, byte =>
    if byte = 0x5C then some '¥'
    else if byte = 0x7E then some (Char.ofNat 0x203E)
    else asciiImage? byte
  | .katakana, byte => halfWide? (byte.toNat + 0x80)
  | _, _ => none

/-- The characters of two bytes of the set. Rows and cells count from 0x20. -/
def double? (set : CharacterSet) (first second : UInt8) : Option (List Char) :=
  let row := first.toNat - 0x20
  let cell := second.toNat - 0x20
  match set with
  | .jisX0208 | .earlyJisX0208 => (jisX0208? row cell).map ([·])
  | .jisX0212 => (cellOf? jisX0212Runs row cell).map ([·])
  | .jisX0213 issue =>
    if issue.lacks row cell then none
    else if row = 2 ∧ cell = 18 then some ['~']
    else jisX0213? row cell
  | .jisX0213Second => (jisX0213Second? .of2004 row cell).map ([·])
  | .gb2312 => (gb2312? row cell).map ([·])
  | .ksX1001 => (ksX1001? row cell).map ([·])
  | _ => none

end CharacterSet

/-! ## Encodings -/

/-- An encoding that switches between character sets. -/
inductive SwitchingEncoding where
  | japanese
  | japanese1
  | japanese2
  | japanese3
  | japanese2004
  | japaneseExtended
  | korean
  deriving DecidableEq, Repr

namespace SwitchingEncoding

/-- The name of the encoding in reports. -/
def scheme : SwitchingEncoding → String
  | .japanese => "iso2022_jp"
  | .japanese1 => "iso2022_jp_1"
  | .japanese2 => "iso2022_jp_2"
  | .japanese3 => "iso2022_jp_3"
  | .japanese2004 => "iso2022_jp_2004"
  | .japaneseExtended => "iso2022_jp_ext"
  | .korean => "iso2022_kr"

def sets : SwitchingEncoding → List CharacterSet
  | .japanese => [.ascii, .jisX0208, .japaneseRoman, .earlyJisX0208]
  | .japanese1 => [.ascii, .jisX0208, .jisX0212, .japaneseRoman, .earlyJisX0208]
  | .japanese2 =>
    [ .ascii, .jisX0208, .jisX0212, .ksX1001, .gb2312, .japaneseRoman, .earlyJisX0208, .latin1,
      .greek ]
  | .japanese3 => [.ascii, .jisX0213 .of2000, .jisX0208, .jisX0213Second]
  | .japanese2004 => [.ascii, .jisX0213 .of2004, .jisX0208, .jisX0213Second]
  | .japaneseExtended =>
    [.ascii, .jisX0208, .jisX0212, .japaneseRoman, .katakana, .earlyJisX0208]
  | .korean => [.ascii, .ksX1001]

/-- Whether two bytes shift between the set that is switched on and a second one. -/
def shifts (encoding : SwitchingEncoding) : Bool :=
  encoding == .korean

/-- Whether a third set can be switched on, for single characters. -/
def hasThirdSet (encoding : SwitchingEncoding) : Bool :=
  encoding == .japanese2

/-- Whether a sequence that tells the issue of a set is known. -/
def tellsIssue (encoding : SwitchingEncoding) : Bool :=
  encoding != .korean

def set? (encoding : SwitchingEncoding) (mark : UInt8) (isDouble : Bool) : Option CharacterSet :=
  encoding.sets.find? fun set => set.mark == mark && set.isDouble == isDouble

end SwitchingEncoding

/-! ## Sequences -/

/-- The place that a set is switched to: the usual one, the one that is shifted to, or the one for
single characters. -/
inductive SetPlace where
  | usual
  | shifted
  | single
  deriving DecidableEq, Repr

/-- The set for each place, whether a text is shifted, and whether a sequence of another kind is
being read. -/
structure SwitchState where
  usual : CharacterSet
  shifted : CharacterSet
  single : CharacterSet
  isShifted : Bool
  isForeign : Bool
  deriving DecidableEq, Repr

namespace SwitchState

def start : SwitchState where
  usual := .ascii
  shifted := .ascii
  single := .ascii
  isShifted := false
  isForeign := false

def put (state : SwitchState) (place : SetPlace) (set : CharacterSet) : SwitchState :=
  match place with
  | .usual => { state with usual := set }
  | .shifted => { state with shifted := set }
  | .single => { state with single := set }

end SwitchState

/-- Where a sequence ends: at a length, behind the last byte, or nowhere within its bounds. -/
inductive SequenceEnd where
  | length (length : Nat)
  | cutOff
  | endless
  deriving DecidableEq, Repr

def endsSequence (byte : UInt8) : Bool :=
  0x40 ≤ byte && byte ≤ 0x5A

/-- Where a sequence of fewer than sixteen bytes ends, of which the bytes before `index` are read.
The bytes that tell the issue of a set end nothing, nor does the one behind them. -/
def sequenceEnd (tellsIssue : Bool) (index : Nat) (bytes : List UInt8) : SequenceEnd :=
  if 16 ≤ index then .endless
  else
    match bytes with
    | [] => .cutOff
    | byte :: rest =>
      if endsSequence byte then .length (index + 1)
      else if tellsIssue ∧ byte = 0x26 ∧ rest.head? = some 0x40 then
        sequenceEnd tellsIssue (index + 3) (rest.drop 2)
      else sequenceEnd tellsIssue (index + 1) rest
termination_by bytes.length
decreasing_by
  all_goals
    simp only [List.length_cons, List.length_drop]
    omega

/-- The place and the mark that the bytes of a sequence name, and whether the mark is one of a set
of two bytes. -/
def SwitchingEncoding.named? (encoding : SwitchingEncoding) :
    List UInt8 → Option (SetPlace × UInt8 × Bool)
  | [0x24, mark] => some (.usual, mark, true)
  | [0x28, mark] => some (.usual, mark, false)
  | [0x29, mark] => some (.shifted, mark, false)
  | [0x2E, mark] => if encoding.hasThirdSet then some (.single, mark, false) else none
  | [0x24, 0x28, mark] => some (.usual, mark, true)
  | [0x24, 0x29, mark] => some (.shifted, mark, true)
  | [_, _, 0x1B, 0x24, 0x42] => if encoding.tellsIssue then some (.usual, 0x42, true) else none
  | _ => none

/-- The step behind a byte that announces a sequence, if it is one that switches. -/
def SwitchingEncoding.switch
    (encoding : SwitchingEncoding)
    (state : SwitchState)
    (rest : List UInt8) :
    ReadingStep SwitchState :=
  match sequenceEnd encoding.tellsIssue 1 rest with
  | .cutOff => .cutOff
  | .endless => .noCharacter 0
  | .length length =>
    let set? := (encoding.named? (rest.take (length - 1))).bind fun (place, mark, isDouble) =>
      (encoding.set? mark isDouble).map fun set => (place, set)
    match set? with
    | some (place, set) => .reads [] (length - 1) (state.put place set)
    | none => .noCharacter (length - 1)

/-- The step of a single character in the third set, whose byte is the third one. -/
def SwitchState.singleStep (state : SwitchState) : List UInt8 → ReadingStep SwitchState
  | _ :: byte :: _ =>
    let high := byte ^^^ 0x80
    let image? :=
      match state.single with
      | .latin1 => if byte < 0x80 then some (latin1Image high) else none
      | .greek =>
        if high = 0xA4 ∨ high = 0xA5 ∨ high = 0xAA then none
        else CodePage.iso8859Part7.image? high
      | _ => asciiImage? byte
    if state.single = .japaneseRoman then .broken
    else
      match image? with
      | some character => .reads [character] 2 state
      | none => .noCharacter 2
  | _ => .cutOff

def SwitchState.plainStep (state : SwitchState) (byte : UInt8) (rest : List UInt8) :
    ReadingStep SwitchState :=
  let set := if state.isShifted then state.shifted else state.usual
  if set.isDouble then
    match rest with
    | [] => .cutOff
    | second :: _ =>
      match set.double? byte second with
      | some text => .reads text 1 state
      | none => .noCharacter 1
  else
    match set.single? byte with
    | some character => .reads [character] 0 state
    | none => .noCharacter 0

/-- A step in an encoding that switches. Sequences of other kinds stand for themselves. -/
def SwitchingEncoding.step
    (encoding : SwitchingEncoding)
    (state : SwitchState)
    (byte : UInt8)
    (rest : List UInt8) :
    ReadingStep SwitchState :=
  if state.isForeign then
    .reads [latin1Image byte] 0 { state with isForeign := !endsSequence byte }
  else if byte = 0x1B then
    match rest with
    | [] => .cutOff
    | second :: _ =>
      if [0x24, 0x26, 0x28, 0x29, 0x2E].contains second then encoding.switch state rest
      else if encoding.hasThirdSet ∧ second = 0x4E then state.singleStep rest
      else .reads ['\x1b'] 0 { state with isForeign := true }
  else if byte = 0x0A then .reads ['\n'] 0 { state with isShifted := false }
  else if encoding.shifts ∧ (byte = 0x0E ∨ byte = 0x0F) then
    .reads [] 0 { state with isShifted := byte == 0x0E }
  else if byte < 0x20 then .reads [latin1Image byte] 0 state
  else if 0x80 ≤ byte then .noCharacter 0
  else state.plainStep byte rest

def SwitchingEncoding.read (encoding : SwitchingEncoding) (bytes : List UInt8) :
    Except DecodingFault (List Char) :=
  readSteps encoding.scheme encoding.step .start 0 bytes

end Attachments.Text
