import Attachments.Supplied.Text.Encoding.Bytes
import Attachments.Supplied.Text.Encoding.Chinese.Table
import Attachments.Supplied.Text.Encoding.Step

/-!
Contract: the encodings of Chinese texts on the mainland.

Owns:
- GB 2312, GBK and GB 18030, each of which extends the one before;
- the ideographs that GBK adds, and the private areas and the four-byte codes of GB 18030;
- HZ, which switches between ASCII and GB 2312.

Does not own: the tables.
-/

namespace Attachments.Text

def gb2312? (row cell : Nat) : Option Char :=
  cellOf? gb2312Runs row cell

/-- The character of two bytes of GB 2312, each of which counts from a start. -/
def gb2312Pair? (start first second : Nat) : Option Char :=
  if start < first ∧ start < second then gb2312? (first - start) (second - start) else none

def gb2312Step (_ : Unit) (byte : UInt8) (rest : List UInt8) : ReadingStep Unit :=
  match asciiImage? byte with
  | some character => .single character
  | none => .pair (fun second => (gb2312Pair? 0xA0 byte.toNat second).map ([·])) rest

/-! ## GBK -/

/-- The unified ideographs of GB 2312 in ascending order. -/
def gb2312Ideographs : List Nat :=
  let codes := gb2312Runs.flatMap fun run => run.cells.toList.map (·.toNat)
  (codes.filter fun code => 0x4E00 ≤ code && code ≤ 0x9FA5).mergeSort

def gbkPlace? (last second : Nat) : Option Nat :=
  if 0x40 ≤ second ∧ second < 0x7F then some (second - 0x40)
  else if 0x80 ≤ second ∧ second ≤ last then some (second - 0x41)
  else none

/-- The place of two bytes in the areas of the ideographs that GBK adds: one before the signs, and
one below each row of GB 2312. -/
def gbkIdeographPlace? (first second : Nat) : Option Nat :=
  if 0x81 ≤ first ∧ first ≤ 0xA0 then
    (gbkPlace? 0xFE second).map (190 * (first - 0x81) + ·)
  else if 0xAA ≤ first ∧ first ≤ 0xFE then
    (gbkPlace? 0xA0 second).map (190 * 32 + 96 * (first - 0xAA) + ·)
  else none

/-- The number of the unified ideographs that GBK adds. -/
def gbkIdeographCount : Nat :=
  0x9FA5 + 1 - 0x4E00 - gb2312Ideographs.length

/-- The ideograph at a place: the unified ones follow in their own order, then some for
compatibility. -/
def gbkIdeograph? (place : Nat) : Option Char :=
  if place < gbkIdeographCount then
    some (Char.ofNat (missing 0x4E00 place gb2312Ideographs))
  else gbkCompatibilityCodes[place - gbkIdeographCount]?.map Char.ofNat

/-- The character of two bytes in GBK. Two signs of GB 2312 are others here. -/
def gbkPair? (first second : Nat) : Option Char :=
  if first = 0xA1 ∧ second = 0xA4 then some '·'
  else if first = 0xA1 ∧ second = 0xAA then some '—'
  else
    gb2312Pair? 0xA0 first second
      <|> (gbkIdeographPlace? first second).bind gbkIdeograph?
      <|> (if 0x40 ≤ second then cellOf? gbkSignRuns first (second - 0x40) else none)

def gbkStep (_ : Unit) (byte : UInt8) (rest : List UInt8) : ReadingStep Unit :=
  match asciiImage? byte with
  | some character => .single character
  | none => .pair (fun second => (gbkPair? byte.toNat second).map ([·])) rest

/-! ## GB 18030 -/

/-- The private character of two bytes: two areas behind GB 2312, and one before its ideographs. -/
def gb18030Private? (first second : Nat) : Option Char :=
  if 0xA1 ≤ second ∧ second ≤ 0xFE then
    if 0xAA ≤ first ∧ first ≤ 0xAF then
      some (Char.ofNat (0xE000 + 94 * (first - 0xAA) + (second - 0xA1)))
    else if 0xF8 ≤ first ∧ first ≤ 0xFE then
      some (Char.ofNat (0xE234 + 94 * (first - 0xF8) + (second - 0xA1)))
    else none
  else if 0xA1 ≤ first ∧ first ≤ 0xA7 then
    (gbkPlace? 0xA0 second).map fun place => Char.ofNat (0xE4C6 + 96 * (first - 0xA1) + place)
  else none

/-- The character of two bytes in GB 18030. -/
def gb18030Pair? (first second : Nat) : Option Char :=
  gbkPair? first second
    <|> gb18030Private? first second
    <|> (if 0x40 ≤ second then cellOf? gb18030Runs first (second - 0x40) else none)

/-- The character with a number among those of four bytes in the first plane. -/
def fourByteCharacter? (number : Nat) : Option Char :=
  (gb18030FourByteRuns.reverse.find? (·.1 ≤ number)).map fun run =>
    Char.ofNat (run.2 + (number - run.1))

/-- The character of four bytes, which count in digits of a mixed base. -/
def gb18030Four? (first second third fourth : Nat) : Option Char :=
  if 0x81 ≤ first ∧ first ≤ 0xFE ∧ 0x81 ≤ third ∧ third ≤ 0xFE ∧ 0x30 ≤ fourth ∧ fourth ≤ 0x39 then
    let below := (second - 0x30) * 1260 + (third - 0x81) * 10 + (fourth - 0x30)
    if first < 0x85 then
      let number := (first - 0x81) * 12600 + below
      if number < 39420 then fourByteCharacter? number else none
    else if 0x90 ≤ first then
      let code := 0x10000 + (first - 0x90) * 12600 + below
      if code ≤ 0x10FFFF then some (Char.ofNat code) else none
    else none
  else none

/-- A step in GB 18030. A digit as the second byte announces two more bytes. -/
def gb18030Step (_ : Unit) (byte : UInt8) (rest : List UInt8) : ReadingStep Unit :=
  match asciiImage? byte with
  | some character => .single character
  | none =>
    match rest with
    | [] => .cutOff
    | second :: rest =>
      if 0x30 ≤ second ∧ second ≤ 0x39 then
        match rest with
        | third :: fourth :: _ =>
          .ofText?
            ((gb18030Four? byte.toNat second.toNat third.toNat fourth.toNat).map ([·])) 3
        | _ => .cutOff
      else .ofText? ((gb18030Pair? byte.toNat second.toNat).map ([·])) 1

/-! ## HZ -/

/-- A step in HZ, which is told whether GB 2312 is switched on. A tilde switches it on and off with
a brace, stands for itself when doubled, and takes the end of the line with it. -/
def hzStep (isOn : Bool) (byte : UInt8) (rest : List UInt8) : ReadingStep Bool :=
  if byte = 0x7E then
    match rest with
    | [] => .cutOff
    | second :: _ =>
      if isOn then if second = 0x7D then .reads [] 1 false else .noCharacter 0
      else if second = 0x7E then .reads ['~'] 1 false
      else if second = 0x7B then .reads [] 1 true
      else if second = 0x0A then .reads [] 1 false
      else .noCharacter 0
  else if 0x80 ≤ byte then .noCharacter 0
  else if !isOn then .reads [latin1Image byte] 0 false
  else
    match rest with
    | [] => .cutOff
    | second :: _ =>
      match gb2312Pair? 0x20 byte.toNat second.toNat with
      | some character => .reads [character] 1 true
      | none => .noCharacter 0

end Attachments.Text
