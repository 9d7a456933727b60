import Attachments.Supplied.Text.Encoding.CodePage.Table
import Attachments.Supplied.Text.Encoding.Pair
import Attachments.Supplied.Text.Encoding.Switching
import Attachments.Supplied.Text.Encoding.Units

/-!
Contract: the encodings, with their names.

Owns:
- the encodings that are known;
- the names of each encoding in their normal form, of which some may be written with points;
- the names of transforms that are no encodings of texts.

Does not own: how bytes are read in an encoding.
-/

namespace Attachments.Text

/-- An encoding of texts. The order of the bytes of a number may be left to a mark. -/
inductive Encoding where
  | utf8
  | utf8Marked
  | utf7
  | utf16 (order? : Option ByteOrder)
  | utf32 (order? : Option ByteOrder)
  | ascii
  | latin1
  | escapes
  | plainEscapes
  | undefined
  | codePage (page : CodePage)
  | pairs (encoding : PairEncoding)
  | hz
  | switching (encoding : SwitchingEncoding)
  deriving DecidableEq, Repr

/-- An encoding with its names. In the further names a low line may also be written as a point. -/
structure EncodingEntry where
  encoding : Encoding
  names : List String
  furtherNames : List String
  deriving DecidableEq, Repr

/-- The registered encodings. -/
def encodingEntries : List EncodingEntry :=
  [ ⟨.utf8, ["utf_8"], ["cp65001", "u8", "utf", "utf8", "utf8_ucs2", "utf8_ucs4"]⟩,
    ⟨.utf8Marked, ["utf_8_sig"], []⟩,
    ⟨.utf7, ["utf_7"], ["u7", "unicode_1_1_utf_7", "utf7"]⟩,
    ⟨.utf16 none, ["utf_16"], ["u16", "utf16"]⟩,
    ⟨.utf16 (some .little), ["utf_16_le"], ["unicodelittleunmarked", "utf_16le"]⟩,
    ⟨.utf16 (some .big), ["utf_16_be"], ["unicodebigunmarked", "utf_16be"]⟩,
    ⟨.utf32 none, ["utf_32"], ["u32", "utf32"]⟩,
    ⟨.utf32 (some .little), ["utf_32_le"], ["utf_32le"]⟩,
    ⟨.utf32 (some .big), ["utf_32_be"], ["utf_32be"]⟩,
    ⟨.ascii, ["idna", "ascii"],
      ["646", "ansi_x3.4_1968", "ansi_x3.4_1986", "ansi_x3_4_1968", "cp367", "csascii", "ibm367",
      "iso646_us", "iso_646.irv_1991", "iso_ir_6", "us", "us_ascii"]⟩,
    ⟨.latin1, ["charmap", "latin_1"],
      ["8859", "cp819", "csisolatin1", "ibm819", "iso8859", "iso8859_1", "iso_8859_1",
      "iso_8859_1_1987", "iso_ir_100", "l1", "latin", "latin1"]⟩,
    ⟨.escapes, ["unicode_escape"], []⟩,
    ⟨.plainEscapes, ["raw_unicode_escape"], []⟩,
    ⟨.undefined, ["undefined"], []⟩,
    ⟨.codePage .cp037, ["cp037"],
      ["037", "csibm037", "ebcdic_cp_ca", "ebcdic_cp_nl", "ebcdic_cp_us", "ebcdic_cp_wt",
      "ibm037", "ibm039"]⟩,
    ⟨.codePage .cp1006, ["cp1006"], []⟩,
    ⟨.codePage .cp1026, ["cp1026"], ["1026", "csibm1026", "ibm1026"]⟩,
    ⟨.codePage .cp1125, ["cp1125"], ["1125", "cp866u", "ibm1125", "ruscii"]⟩,
    ⟨.codePage .cp1140, ["cp1140"], ["1140", "ibm1140"]⟩,
    ⟨.codePage .cp1250, ["cp1250"], ["1250", "windows_1250"]⟩,
    ⟨.codePage .cp1251, ["cp1251"], ["1251", "windows_1251"]⟩,
    ⟨.codePage .cp1252, ["cp1252"], ["1252", "windows_1252"]⟩,
    ⟨.codePage .cp1253, ["cp1253"], ["1253", "windows_1253"]⟩,
    ⟨.codePage .cp1254, ["cp1254"], ["1254", "windows_1254"]⟩,
    ⟨.codePage .cp1255, ["cp1255"], ["1255", "windows_1255"]⟩,
    ⟨.codePage .cp1256, ["cp1256"], ["1256", "windows_1256"]⟩,
    ⟨.codePage .cp1257, ["cp1257"], ["1257", "windows_1257"]⟩,
    ⟨.codePage .cp1258, ["cp1258"], ["1258", "windows_1258"]⟩,
    ⟨.codePage .cp273, ["cp273"], ["273", "csibm273", "ibm273"]⟩,
    ⟨.codePage .cp424, ["cp424"], ["424", "csibm424", "ebcdic_cp_he", "ibm424"]⟩,
    ⟨.codePage .cp437, ["cp437"], ["437", "cspc8codepage437", "ibm437"]⟩,
    ⟨.codePage .cp500, ["cp500"], ["500", "csibm500", "ebcdic_cp_be", "ebcdic_cp_ch", "ibm500"]⟩,
    ⟨.codePage .cp720, ["cp720"], []⟩,
    ⟨.codePage .cp737, ["cp737"], []⟩,
    ⟨.codePage .cp775, ["cp775"], ["775", "cspc775baltic", "ibm775"]⟩,
    ⟨.codePage .cp850, ["cp850"], ["850", "cspc850multilingual", "ibm850"]⟩,
    ⟨.codePage .cp852, ["cp852"], ["852", "cspcp852", "ibm852"]⟩,
    ⟨.codePage .cp855, ["cp855"], ["855", "csibm855", "ibm855"]⟩,
    ⟨.codePage .cp856, ["cp856"], []⟩,
    ⟨.codePage .cp857, ["cp857"], ["857", "csibm857", "ibm857"]⟩,
    ⟨.codePage .cp858, ["cp858"], ["858", "csibm858", "ibm858"]⟩,
    ⟨.codePage .cp860, ["cp860"], ["860", "csibm860", "ibm860"]⟩,
    ⟨.codePage .cp861, ["cp861"], ["861", "cp_is", "csibm861", "ibm861"]⟩,
    ⟨.codePage .cp862, ["cp862"], ["862", "cspc862latinhebrew", "ibm862"]⟩,
    ⟨.codePage .cp863, ["cp863"], ["863", "csibm863", "ibm863"]⟩,
    ⟨.codePage .cp864, ["cp864"], ["864", "csibm864", "ibm864"]⟩,
    ⟨.codePage .cp865, ["cp865"], ["865", "csibm865", "ibm865"]⟩,
    ⟨.codePage .cp866, ["cp866"], ["866", "csibm866", "ibm866"]⟩,
    ⟨.codePage .cp869, ["cp869"], ["869", "cp_gr", "csibm869", "ibm869"]⟩,
    ⟨.codePage .cp874, ["cp874"], []⟩,
    ⟨.codePage .cp875, ["cp875"], []⟩,
    ⟨.codePage .hpRoman8, ["hp_roman8"], ["cp1051", "ibm1051", "r8", "roman8"]⟩,
    ⟨.codePage .iso8859Part10, ["iso8859_10"],
      ["csisolatin6", "iso_8859_10", "iso_8859_10_1992", "iso_ir_157", "l6", "latin6"]⟩,
    ⟨.codePage .iso8859Part11, ["iso8859_11"], ["iso_8859_11", "iso_8859_11_2001", "thai"]⟩,
    ⟨.codePage .iso8859Part13, ["iso8859_13"], ["iso_8859_13", "l7", "latin7"]⟩,
    ⟨.codePage .iso8859Part14, ["iso8859_14"],
      ["iso_8859_14", "iso_8859_14_1998", "iso_celtic", "iso_ir_199", "l8", "latin8"]⟩,
    ⟨.codePage .iso8859Part15, ["iso8859_15"], ["iso_8859_15", "l9", "latin9"]⟩,
    ⟨.codePage .iso8859Part16, ["iso8859_16"],
      ["iso_8859_16", "iso_8859_16_2001", "iso_ir_226", "l10", "latin10"]⟩,
    ⟨.codePage .iso8859Part2, ["iso8859_2"],
      ["csisolatin2", "iso_8859_2", "iso_8859_2_1987", "iso_ir_101", "l2", "latin2"]⟩,
    ⟨.codePage .iso8859Part3, ["iso8859_3"],
      ["csisolatin3", "iso_8859_3", "iso_8859_3_1988", "iso_ir_109", "l3", "latin3"]⟩,
    ⟨.codePage .iso8859Part4, ["iso8859_4"],
      ["csisolatin4", "iso_8859_4", "iso_8859_4_1988", "iso_ir_110", "l4", "latin4"]⟩,
    ⟨.codePage .iso8859Part5, ["iso8859_5"],
      ["csisolatincyrillic", "cyrillic", "iso_8859_5", "iso_8859_5_1988", "iso_ir_144"]⟩,
    ⟨.codePage .iso8859Part6, ["iso8859_6"],
      ["arabic", "asmo_708", "csisolatinarabic", "ecma_114", "iso_8859_6", "iso_8859_6_1987",
      "iso_ir_127"]⟩,
    ⟨.codePage .iso8859Part7, ["iso8859_7"],
      ["csisolatingreek", "ecma_118", "elot_928", "greek", "greek8", "iso_8859_7",
      "iso_8859_7_1987", "iso_ir_126"]⟩,
    ⟨.codePage .iso8859Part8, ["iso8859_8"],
      ["csisolatinhebrew", "hebrew", "iso_8859_8", "iso_8859_8_1988", "iso_ir_138"]⟩,
    ⟨.codePage .iso8859Part9, ["iso8859_9"],
      ["csisolatin5", "iso_8859_9", "iso_8859_9_1989", "iso_ir_148", "l5", "latin5"]⟩,
    ⟨.codePage .koi8R, ["koi8_r"], ["cskoi8r"]⟩,
    ⟨.codePage .koi8T, ["koi8_t"], []⟩,
    ⟨.codePage .koi8U, ["koi8_u"], []⟩,
    ⟨.codePage .kz1048, ["kz1048"], ["kz_1048", "rk1048", "strk1048_2002"]⟩,
    ⟨.codePage .macArabic, ["mac_arabic"], []⟩,
    ⟨.codePage .macCroatian, ["mac_croatian"], []⟩,
    ⟨.codePage .macCyrillic, ["mac_cyrillic"], ["maccyrillic"]⟩,
    ⟨.codePage .macFarsi, ["mac_farsi"], []⟩,
    ⟨.codePage .macGreek, ["mac_greek"], ["macgreek"]⟩,
    ⟨.codePage .macIceland, ["mac_iceland"], ["maciceland"]⟩,
    ⟨.codePage .macLatin2, ["mac_latin2"], ["mac_centeuro", "maccentraleurope", "maclatin2"]⟩,
    ⟨.codePage .macRoman, ["mac_roman"], ["macintosh", "macroman"]⟩,
    ⟨.codePage .macRomanian, ["mac_romanian"], []⟩,
    ⟨.codePage .macTurkish, ["mac_turkish"], ["macturkish"]⟩,
    ⟨.codePage .palmos, ["palmos"], []⟩,
    ⟨.codePage .ptcp154, ["ptcp154"], ["cp154", "csptcp154", "cyrillic_asian", "pt154"]⟩,
    ⟨.codePage .tis620, ["tis_620"],
      ["iso_ir_166", "tis620", "tis_620_0", "tis_620_2529_0", "tis_620_2529_1"]⟩,
    ⟨.pairs .shiftJis, ["shift_jis"],
      ["csshiftjis", "s_jis", "shiftjis", "sjis", "x_mac_japanese"]⟩,
    ⟨.pairs .windowsJapanese, ["cp932"], ["932", "ms932", "ms_kanji", "mskanji"]⟩,
    ⟨.pairs .shiftJis2000, ["shift_jisx0213"], ["s_jisx0213", "shiftjisx0213", "sjisx0213"]⟩,
    ⟨.pairs .shiftJis2004, ["shift_jis_2004"], ["s_jis_2004", "shiftjis2004", "sjis_2004"]⟩,
    ⟨.pairs .eucJp, ["euc_jp"], ["eucjp", "u_jis", "ujis"]⟩,
    ⟨.pairs .eucJis2000, ["euc_jisx0213"], ["eucjisx0213"]⟩,
    ⟨.pairs .eucJis2004, ["euc_jis_2004"], ["euc_jis2004", "eucjis2004", "jisx0213"]⟩,
    ⟨.pairs .gb2312, ["gb2312"],
      ["chinese", "csiso58gb231280", "euc_cn", "euccn", "eucgb2312_cn", "gb2312_1980",
      "gb2312_80", "iso_ir_58", "x_mac_simp_chinese"]⟩,
    ⟨.pairs .gbk, ["gbk"], ["936", "cp936", "ms936"]⟩,
    ⟨.pairs .gb18030, ["gb18030"], ["gb18030_2000"]⟩,
    ⟨.pairs .big5, ["big5"], ["big5_tw", "csbig5", "x_mac_trad_chinese"]⟩,
    ⟨.pairs .windowsBig5, ["cp950"], ["950", "ms950"]⟩,
    ⟨.pairs .hongKong, ["big5hkscs"], ["big5_hkscs", "hkscs"]⟩,
    ⟨.pairs .eucKr, ["euc_kr"],
      ["euckr", "korean", "ks_c_5601", "ks_c_5601_1987", "ks_x_1001", "ksc5601", "ksx1001",
      "x_mac_korean"]⟩,
    ⟨.pairs .windowsKorean, ["cp949"], ["949", "ms949", "uhc"]⟩,
    ⟨.pairs .johab, ["johab"], ["cp1361", "ms1361"]⟩,
    ⟨.hz, ["hz"], ["hz_gb", "hz_gb_2312", "hzgb"]⟩,
    ⟨.switching .japanese, ["iso2022_jp"], ["csiso2022jp", "iso2022jp", "iso_2022_jp"]⟩,
    ⟨.switching .japanese1, ["iso2022_jp_1"], ["iso2022jp_1", "iso_2022_jp_1"]⟩,
    ⟨.switching .japanese2, ["iso2022_jp_2"], ["iso2022jp_2", "iso_2022_jp_2"]⟩,
    ⟨.switching .japanese3, ["iso2022_jp_3"], ["iso2022jp_3", "iso_2022_jp_3"]⟩,
    ⟨.switching .japanese2004, ["iso2022_jp_2004"], ["iso2022jp_2004", "iso_2022_jp_2004"]⟩,
    ⟨.switching .japaneseExtended, ["iso2022_jp_ext"], ["iso2022jp_ext", "iso_2022_jp_ext"]⟩,
    ⟨.switching .korean, ["iso2022_kr"], ["csiso2022kr", "iso2022kr", "iso_2022_kr"]⟩ ]

/-- The names of transforms of bytes into bytes or of texts into texts. -/
def transformNames : List String :=
  ["base64", "base64_codec", "base_64", "bz2", "bz2_codec", "hex", "hex_codec", "quopri",
  "quopri_codec", "quoted_printable", "quotedprintable", "rot13", "rot_13", "uu", "uu_codec",
  "zip", "zlib", "zlib_codec"]

end Attachments.Text
