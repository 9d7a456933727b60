import Attachments.Supplied.Text.Encoding.Bytes
import Attachments.Supplied.Text.Encoding.Korean.Table
import Attachments.Supplied.Text.Encoding.Step

/-!
Contract: the encodings of Korean texts.

Owns:
- EUC, with syllables that are made up of letters in eight bytes;
- the code page of Windows, which adds the other syllables;
- Johab, in which syllables are made up of three letters in two bytes.

Does not own: the table of KS X 1001.
-/

namespace Attachments.Text

def ksX1001? (row cell : Nat) : Option Char :=
  cellOf? ksX1001Runs row cell

/-- The character of two bytes of KS X 1001. -/
def ksX1001Pair? (first second : Nat) : Option Char :=
  if 0xA0 < first ∧ 0xA0 < second then ksX1001? (first - 0xA0) (second - 0xA0) else none

/-- The syllable of three letters by their numbers. -/
def syllable (initial medial final : Nat) : Char :=
  Char.ofNat (0xAC00 + 588 * initial + 28 * medial + final)

/-! ## EUC -/

/-- The numbers of the letters in row 4 as initials. A number too high marks a letter that is
none. -/
def initialNumbers : List Nat :=
  [ 0, 1, 99, 2, 99, 99, 3, 4, 5, 99, 99, 99, 99, 99, 99, 99, 6, 7, 8, 99, 9, 10, 11, 12, 13, 14,
    15, 16, 17, 18 ]

/-- The numbers of the letters in row 4 as finals. A number too high marks a letter that is none. -/
def finalNumbers : List Nat :=
  [ 1, 2, 3, 4, 5, 6, 7, 99, 8, 9, 10, 11, 12, 13, 14, 15, 16, 17, 99, 18, 19, 20, 21, 22, 99, 23,
    24, 25, 26, 27 ]

def letterNumber? (numbers : List Nat) (byte : Nat) : Option Nat :=
  (if 0xA1 ≤ byte then numbers[byte - 0xA1]? else none).filter (· < 99)

/-- The syllable that three letters make up behind a filler. -/
def madeUpSyllable? (initial medial final : Nat) : Option Char := do
  let initial ← letterNumber? initialNumbers initial
  let medial ← if 0xBF ≤ medial ∧ medial ≤ 0xD3 then some (medial - 0xBF) else none
  let final ← if final = 0xD4 then some 0 else letterNumber? finalNumbers final
  some (syllable initial medial final)

/-- A step in EUC. A filler announces the letters of a syllable. -/
def eucKrStep (_ : Unit) (byte : UInt8) (rest : List UInt8) : ReadingStep Unit :=
  match asciiImage? byte, rest with
  | some character, _ => .single character
  | none, [] => .cutOff
  | none, second :: rest =>
    if byte = 0xA4 ∧ second = 0xD4 then
      match rest with
      | 0xA4 :: initial :: 0xA4 :: medial :: 0xA4 :: final :: _ =>
        .ofText? ((madeUpSyllable? initial.toNat medial.toNat final.toNat).map ([·])) 7
      | rest => if rest.length < 6 then .cutOff else .noCharacter 0
    else .ofText? ((ksX1001Pair? byte.toNat second.toNat).map ([·])) 1

/-! ## The code page of Windows -/

/-- The syllables of KS X 1001 in ascending order. -/
def ksX1001Syllables : List Nat :=
  let codes := ksX1001Runs.flatMap fun run => run.cells.toList.map (·.toNat)
  (codes.filter fun code => 0xAC00 ≤ code && code ≤ 0xD7A3).mergeSort

/-- The place of a second byte among those of the code page that KS X 1001 does not take. -/
def windowsKoreanPlace? (last second : Nat) : Option Nat :=
  if 0x41 ≤ second ∧ second ≤ 0x5A then some (second - 0x41)
  else if 0x61 ≤ second ∧ second ≤ 0x7A then some (second - 0x47)
  else if 0x81 ≤ second ∧ second ≤ last then some (second - 0x4D)
  else none

/-- The place of two bytes among the syllables that the code page adds. -/
def windowsSyllablePlace? (first second : Nat) : Option Nat :=
  if 0x81 ≤ first ∧ first ≤ 0xA0 then
    (windowsKoreanPlace? 0xFE second).map (178 * (first - 0x81) + ·)
  else if 0xA1 ≤ first ∧ first ≤ 0xC6 then
    (windowsKoreanPlace? 0xA0 second).map (178 * 32 + 84 * (first - 0xA1) + ·)
  else none

/-- The syllable at a place: those that KS X 1001 lacks follow in their own order. -/
def windowsSyllable? (place : Nat) : Option Char :=
  if place < 11172 - ksX1001Syllables.length then
    some (Char.ofNat (missing 0xAC00 place ksX1001Syllables))
  else none

/-- The character of two bytes in the code page. -/
def windowsKoreanPair? (first second : Nat) : Option Char :=
  ksX1001Pair? first second <|> (windowsSyllablePlace? first second).bind windowsSyllable?

/-! ## Johab -/

/-- A letter of a syllable: the filler, or one with a number. -/
inductive JohabLetter where
  | filler
  | number (number : Nat)
  deriving DecidableEq, Repr

/-- The initial of a code of five bits. -/
def johabInitial? (code : Nat) : Option JohabLetter :=
  if code = 1 then some .filler
  else if 2 ≤ code ∧ code ≤ 20 then some (.number (code - 2))
  else none

/-- The medial of a code of five bits. The codes skip two in each eight. -/
def johabMedial? (code : Nat) : Option JohabLetter :=
  if code = 2 then some .filler
  else if 3 ≤ code ∧ code ≤ 7 then some (.number (code - 3))
  else if 10 ≤ code ∧ code ≤ 15 then some (.number (code - 5))
  else if 18 ≤ code ∧ code ≤ 23 then some (.number (code - 7))
  else if 26 ≤ code ∧ code ≤ 29 then some (.number (code - 9))
  else none

/-- The final of a code of five bits. -/
def johabFinal? (code : Nat) : Option JohabLetter :=
  if code = 1 then some .filler
  else if 2 ≤ code ∧ code ≤ 17 then some (.number (code - 1))
  else if 19 ≤ code ∧ code ≤ 29 then some (.number (code - 2))
  else none

/-- The letter that stands alone for the letter of a number in a list of row 4. -/
def lonely? (numbers : List Nat) (number : Nat) : Option Char :=
  let place := numbers.idxOf number
  if place < numbers.length then some (Char.ofNat (0x3131 + place)) else none

/-- The character of three letters. Only one letter can stand without the others. -/
def johabCharacter? : JohabLetter → JohabLetter → JohabLetter → Option Char
  | .filler, .filler, .filler => some (Char.ofNat 0x3000)
  | .filler, .filler, .number final => lonely? finalNumbers final
  | .filler, .number medial, .filler => some (Char.ofNat (0x314F + medial))
  | .number initial, .filler, .filler => lonely? initialNumbers initial
  | .number initial, .number medial, .filler => some (syllable initial medial 0)
  | .number initial, .number medial, .number final => some (syllable initial medial final)
  | _, _, _ => none

/-- The syllable or letter of two bytes. -/
def johabSyllable? (first second : Nat) : Option Char := do
  let code := 256 * first + second
  let initial ← johabInitial? (code / 1024 % 32)
  let medial ← johabMedial? (code / 32 % 32)
  let final ← johabFinal? (code % 32)
  johabCharacter? initial medial final

/-- The sign or ideograph of two bytes. Each first byte stands for two rows of KS X 1001; the
letters are left out. -/
def johabSign? (first second : Nat) : Option Char :=
  let isLetter := first == 0xDA && 0xA1 ≤ second && second ≤ 0xD3
  let inRange := 0x31 ≤ second && second ≤ 0x7E || 0x91 ≤ second && second ≤ 0xFE
  if first < 0xD9 ∨ first = 0xDF ∨ 0xF9 < first ∨ isLetter ∨ !inRange then none
  else
    let rows := if first < 0xE0 then 2 * (first - 0xD9) else 2 * first - 0x197
    let place := if second < 0x91 then second - 0x31 else second - 0x43
    ksX1001? (rows + place / 94 + 1) (place % 94 + 1)

/-- The character of two bytes in Johab. -/
def johabPair? (first second : Nat) : Option Char :=
  if first < 0xD8 then johabSyllable? first second else johabSign? first second

end Attachments.Text
