import Attachments.Supplied.Text.Encoding.BigFive
import Attachments.Supplied.Text.Encoding.Chinese
import Attachments.Supplied.Text.Encoding.Japanese
import Attachments.Supplied.Text.Encoding.Korean

/-!
Contract: the encodings in which two bytes stand for most characters.

Owns:
- the list of them, their names in reports, and the reading of bytes in each.

Does not own: the steps of the reading.
-/

namespace Attachments.Text

/-- An encoding in which two bytes stand for most characters beyond ASCII. -/
inductive PairEncoding where
  | shiftJis
  | windowsJapanese
  | shiftJis2000
  | shiftJis2004
  | eucJp
  | eucJis2000
  | eucJis2004
  | gb2312
  | gbk
  | gb18030
  | big5
  | windowsBig5
  | hongKong
  | eucKr
  | windowsKorean
  | johab
  deriving DecidableEq, Repr

namespace PairEncoding

/-- The name of the encoding in reports. -/
def scheme : PairEncoding → String
  | .shiftJis => "shift_jis"
  | .windowsJapanese => "cp932"
  | .shiftJis2000 => "shift_jisx0213"
  | .shiftJis2004 => "shift_jis_2004"
  | .eucJp => "euc_jp"
  | .eucJis2000 => "euc_jisx0213"
  | .eucJis2004 => "euc_jis_2004"
  | .gb2312 => "gb2312"
  | .gbk => "gbk"
  | .gb18030 => "gb18030"
  | .big5 => "big5"
  | .windowsBig5 => "cp950"
  | .hongKong => "big5hkscs"
  | .eucKr => "euc_kr"
  | .windowsKorean => "cp949"
  | .johab => "johab"

/-- A step in the encoding. -/
def step : PairEncoding → Unit → UInt8 → List UInt8 → ReadingStep Unit
  | .shiftJis => shiftJisStep
  | .windowsJapanese => windowsJapaneseStep
  | .shiftJis2000 => shiftJisX0213Step .of2000
  | .shiftJis2004 => shiftJisX0213Step .of2004
  | .eucJp => eucJpStep
  | .eucJis2000 => eucJisStep .of2000
  | .eucJis2004 => eucJisStep .of2004
  | .gb2312 => gb2312Step
  | .gbk => gbkStep
  | .gb18030 => gb18030Step
  | .big5 => twoByteStep big5Pair?
  | .windowsBig5 => twoByteStep windowsBig5Pair?
  | .hongKong => twoByteStep hongKongPair?
  | .eucKr => eucKrStep
  | .windowsKorean => twoByteStep fun first second => (windowsKoreanPair? first second).map ([·])
  | .johab => twoByteStep fun first second => (johabPair? first second).map ([·])

def read (encoding : PairEncoding) (bytes : List UInt8) : Except DecodingFault (List Char) :=
  readSteps encoding.scheme encoding.step () 0 bytes

end PairEncoding

end Attachments.Text
