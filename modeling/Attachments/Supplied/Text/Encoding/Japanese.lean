import Attachments.Supplied.Text.Encoding.Bytes
import Attachments.Supplied.Text.Encoding.Japanese.Table
import Attachments.Supplied.Text.Encoding.Step

/-!
Contract: the encodings of Japanese texts.

Owns:
- the cells of the character sets, with the issues of JIS X 0213;
- Shift JIS, in which rows come in pairs, and what Windows makes of it;
- EUC, in which rows and cells count from 0xA0.

Does not own: encodings that switch between character sets.
-/

namespace Attachments.Text

/-- The two issues of JIS X 0213. The first one lacks ten characters of the second. -/
inductive JisX0213Issue where
  | of2000
  | of2004
  deriving DecidableEq, Repr

/-- The cells that only the issue of 2004 has. -/
def cellsOf2004 : List (Nat × Nat) :=
  [ (14, 1), (15, 94), (47, 52), (47, 94), (84, 7), (94, 90), (94, 91), (94, 92), (94, 93),
    (94, 94) ]

def JisX0213Issue.lacks (issue : JisX0213Issue) (row cell : Nat) : Bool :=
  issue == .of2000 && cellsOf2004.contains (row, cell)

def jisX0208? (row cell : Nat) : Option Char :=
  cellOf? jisX0208Runs row cell

def jisX0213? (row cell : Nat) : Option (List Char) :=
  match jisX0208? row cell <|> cellOf? jisX0213Runs row cell with
  | some character => some [character]
  | none =>
    (jisX0213Pairs.find? fun entry => entry.1 == row && entry.2.1 == cell).map fun entry =>
      entry.2.2.map Char.ofNat

/-- The character in a cell of the second plane of JIS X 0213. One of them differs between the
issues. -/
def jisX0213Second? (issue : JisX0213Issue) (row cell : Nat) : Option Char :=
  if issue = .of2000 ∧ row = 93 ∧ cell = 27 then some (Char.ofNat 0x9B1D)
  else cellOf? jisX0213SecondRuns row cell

def halfWide? (byte : Nat) : Option Char :=
  if 0xA1 ≤ byte ∧ byte ≤ 0xDF then some (Char.ofNat (0xFEC0 + byte)) else none

/-! ## Shift JIS -/

/-- The row and the cell of two bytes. Each first byte stands for two rows, of which the cells
follow each other. -/
def shiftedCell? (first second : Nat) : Option (Nat × Nat) :=
  let rows := 2 * (if first < 0xE0 then first - 0x81 else first - 0xC1)
  let place? :=
    if 0x40 ≤ second ∧ second ≤ 0x7E then some (second - 0x40)
    else if 0x80 ≤ second ∧ second ≤ 0xFC then some (second - 0x41)
    else none
  place?.map fun place => (rows + place / 94 + 1, place % 94 + 1)

/-- Whether a byte can be the first of two, where rows go to a last first byte. -/
def startsShifted (last byte : Nat) : Bool :=
  0x81 ≤ byte && byte ≤ 0x9F || 0xE0 ≤ byte && byte ≤ last

def shiftJisStep (_ : Unit) (byte : UInt8) (rest : List UInt8) : ReadingStep Unit :=
  let first := byte.toNat
  match asciiImage? byte <|> halfWide? first with
  | some character => .single character
  | none =>
    if startsShifted 0xEA first then
      .pair (fun second =>
        (shiftedCell? first second).bind fun (row, cell) =>
          (jisX0208? row cell).map ([·])) rest
    else .noCharacter 0

/-- The character of a cell in the Japanese code page of Windows. Twenty rows are private. -/
def windowsJapanese? (row cell : Nat) : Option Char :=
  if 95 ≤ row ∧ row ≤ 114 then some (Char.ofNat (0xE000 + 94 * (row - 95) + (cell - 1)))
  else cellOf? windowsJapaneseRuns row cell <|> jisX0208? row cell

/-- A step in the Japanese code page of Windows. Bytes without a character are private. -/
def windowsJapaneseStep (_ : Unit) (byte : UInt8) (rest : List UInt8) : ReadingStep Unit :=
  let first := byte.toNat
  if first ≤ 0x80 then .single (latin1Image byte)
  else if first = 0xA0 then .single (Char.ofNat 0xF8F0)
  else if 0xFD ≤ first then .single (Char.ofNat (0xF8F1 + (first - 0xFD)))
  else
    match halfWide? first with
    | some character => .single character
    | none =>
      .pair (fun second =>
        (shiftedCell? first second).bind fun (row, cell) =>
          (windowsJapanese? row cell).map ([·])) rest

/-- The rows of the second plane of JIS X 0213 in their order behind the first plane. -/
def secondPlaneRows : List Nat :=
  [1, 8, 3, 4, 5, 12, 13, 14, 15] ++ List.range' 78 17

def shiftJisX0213? (issue : JisX0213Issue) (row cell : Nat) : Option (List Char) :=
  if row ≤ 94 then
    if row = 1 ∧ cell = 32 then some ['\\']
    else if row = 2 ∧ cell = 18 then some ['~']
    else jisX0213? row cell
  else
    (secondPlaneRows[row - 95]?.bind fun row => jisX0213Second? issue row cell).map ([·])

def shiftJisX0213Step (issue : JisX0213Issue) (_ : Unit) (byte : UInt8) (rest : List UInt8) :
    ReadingStep Unit :=
  let first := byte.toNat
  if first = 0x5C then .single '¥'
  else if first = 0x7E then .single (Char.ofNat 0x203E)
  else
    match asciiImage? byte <|> halfWide? first with
    | some character => .single character
    | none =>
      if startsShifted 0xFC first then
        match rest with
        | [] => .cutOff
        | second :: _ =>
          match shiftedCell? first second.toNat with
          | none => .noCharacter 0
          | some (row, cell) =>
            if issue.lacks row cell then .noCharacter 1
            else .ofText? (shiftJisX0213? issue row cell) 1
      else .noCharacter 0

/-! ## EUC -/

/-- The row or the cell of a byte. -/
def highIndex? (byte : Nat) : Option Nat :=
  if 0xA1 ≤ byte ∧ byte ≤ 0xFE then some (byte - 0xA0) else none

/-- What two bytes stand for, of which each counts from 0xA0. -/
def highPair? {Value : Type} (cell? : Nat → Nat → Option Value) (first second : Nat) :
    Option Value := do
  cell? (← highIndex? first) (← highIndex? second)

/-- A step behind a byte that announces half-wide characters. -/
def halfWideStep (rest : List UInt8) : ReadingStep Unit :=
  .pair (fun second => (halfWide? second).map ([·])) rest

/-- A step of three bytes, the first of which announces another character set. -/
def tripleStep (cell? : Nat → Nat → Option Char) : List UInt8 → ReadingStep Unit
  | second :: third :: _ =>
    .ofText? ((highPair? cell? second.toNat third.toNat).map ([·])) 2
  | _ => .cutOff

def eucJpStep (_ : Unit) (byte : UInt8) (rest : List UInt8) : ReadingStep Unit :=
  match asciiImage? byte with
  | some character => .single character
  | none =>
    if byte = 0x8E then halfWideStep rest
    else if byte = 0x8F then tripleStep (cellOf? jisX0212Runs) rest
    else .pair (fun second => (highPair? jisX0208? byte.toNat second).map ([·])) rest

/-- A step in EUC with JIS X 0213. JIS X 0212 fills the rows that its second plane leaves free. -/
def eucJisStep (issue : JisX0213Issue) (_ : Unit) (byte : UInt8) (rest : List UInt8) :
    ReadingStep Unit :=
  match asciiImage? byte with
  | some character => .single character
  | none =>
    if byte = 0x8E then halfWideStep rest
    else if byte = 0x8F then
      tripleStep
        (fun row cell => jisX0213Second? issue row cell <|> cellOf? jisX0212Runs row cell) rest
    else
      match rest with
      | [] => .cutOff
      | second :: _ =>
        if (highPair? (fun row cell => some (issue.lacks row cell)) byte.toNat
            second.toNat).getD false then
          .noCharacter 1
        else .ofText? (highPair? jisX0213? byte.toNat second.toNat) 1

end Attachments.Text
