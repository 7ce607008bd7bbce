import GirDoc.SourceEncoding.Codec
import GirDoc.Text.Charset.Chinese
import GirDoc.Text.Charset.Designated
import GirDoc.Text.Charset.Escaped
import GirDoc.Text.Charset.Japanese
import GirDoc.Text.Charset.Korean
import GirDoc.Text.Charset.Table
import GirDoc.Text.Charset.Traditional
import GirDoc.Text.Charset.Utf7

/-!
# Names of codecs

Each codec has a name of its own and maybe others. Names are compared without regard to case and punctuation.
-/

namespace GirDoc.SourceEncoding

open Text (Charset)
open Text.Charset

/-- Text in a one-byte encoding. -/
def tabled (chars : String) : Codec := .text (.table chars)

/-- The codecs with their own names and the others. -/
def codecs : List (String × Codec × List String) :=
  [("ascii", Codec.text .ascii,
      ["646", "ansi_x3.4_1968", "ansi_x3.4_1986", "ansi_x3_4_1968", "cp367", "csascii", "ibm367",
        "iso646_us", "iso_646.irv_1991", "iso_ir_6", "us", "us_ascii"]),
    ("base64_codec", Codec.notText, ["base64", "base_64"]),
    ("big5", Codec.text (.big5 true), ["big5_tw", "csbig5", "x_mac_trad_chinese"]),
    ("big5hkscs", Codec.text (.big5HongKong false), ["big5_hkscs", "hkscs"]),
    ("bz2_codec", Codec.notText, ["bz2"]),
    ("charmap", Codec.text .latin1, []),
    ("cp037", tabled Table.cp037,
      ["037", "csibm037", "ebcdic_cp_ca", "ebcdic_cp_nl", "ebcdic_cp_us", "ebcdic_cp_wt", "ibm037",
        "ibm039"]),
    ("cp1006", tabled Table.cp1006, []),
    ("cp1026", tabled Table.cp1026, ["1026", "csibm1026", "ibm1026"]),
    ("cp1125", tabled Table.cp1125, ["1125", "cp866u", "ibm1125", "ruscii"]),
    ("cp1140", tabled Table.cp1140, ["1140", "ibm1140"]),
    ("cp1250", tabled Table.cp1250, ["1250", "windows_1250"]),
    ("cp1251", tabled Table.cp1251, ["1251", "windows_1251"]),
    ("cp1252", tabled Table.cp1252, ["1252", "windows_1252"]),
    ("cp1253", tabled Table.cp1253, ["1253", "windows_1253"]),
    ("cp1254", tabled Table.cp1254, ["1254", "windows_1254"]),
    ("cp1255", tabled Table.cp1255, ["1255", "windows_1255"]),
    ("cp1256", tabled Table.cp1256, ["1256", "windows_1256"]),
    ("cp1257", tabled Table.cp1257, ["1257", "windows_1257"]),
    ("cp1258", tabled Table.cp1258, ["1258", "windows_1258"]),
    ("cp273", tabled Table.cp273, ["273", "csibm273", "ibm273"]),
    ("cp424", tabled Table.cp424, ["424", "csibm424", "ebcdic_cp_he", "ibm424"]),
    ("cp437", tabled Table.cp437, ["437", "cspc8codepage437", "ibm437"]),
    ("cp500", tabled Table.cp500, ["500", "csibm500", "ebcdic_cp_be", "ebcdic_cp_ch", "ibm500"]),
    ("cp720", tabled Table.cp720, []),
    ("cp737", tabled Table.cp737, []),
    ("cp775", tabled Table.cp775, ["775", "cspc775baltic", "ibm775"]),
    ("cp850", tabled Table.cp850, ["850", "cspc850multilingual", "ibm850"]),
    ("cp852", tabled Table.cp852, ["852", "cspcp852", "ibm852"]),
    ("cp855", tabled Table.cp855, ["855", "csibm855", "ibm855"]),
    ("cp856", tabled Table.cp856, []),
    ("cp857", tabled Table.cp857, ["857", "csibm857", "ibm857"]),
    ("cp858", tabled Table.cp858, ["858", "csibm858", "ibm858"]),
    ("cp860", tabled Table.cp860, ["860", "csibm860", "ibm860"]),
    ("cp861", tabled Table.cp861, ["861", "cp_is", "csibm861", "ibm861"]),
    ("cp862", tabled Table.cp862, ["862", "cspc862latinhebrew", "ibm862"]),
    ("cp863", tabled Table.cp863, ["863", "csibm863", "ibm863"]),
    ("cp864", tabled Table.cp864, ["864", "csibm864", "ibm864"]),
    ("cp865", tabled Table.cp865, ["865", "csibm865", "ibm865"]),
    ("cp866", tabled Table.cp866, ["866", "csibm866", "ibm866"]),
    ("cp869", tabled Table.cp869, ["869", "cp_gr", "csibm869", "ibm869"]),
    ("cp874", tabled Table.cp874, []),
    ("cp875", tabled Table.cp875, []),
    ("cp932", Codec.text (.cp932 true), ["932", "ms932", "ms_kanji", "mskanji"]),
    ("cp949", Codec.text (.cp949 false), ["949", "ms949", "uhc"]),
    ("cp950", Codec.text .cp950, ["950", "ms950"]),
    ("euc_jis_2004", Codec.text (.eucJp (.extended true)), ["euc_jis2004", "eucjis2004", "jisx0213"]),
    ("euc_jisx0213", Codec.text (.eucJp (.extended false)), ["eucjisx0213"]),
    ("euc_jp", Codec.text (.eucJp .plain), ["eucjp", "u_jis", "ujis"]),
    ("euc_kr", Codec.text (.eucKr true),
      ["euckr", "korean", "ks_c_5601", "ks_c_5601_1987", "ks_x_1001", "ksc5601", "ksx1001",
        "x_mac_korean"]),
    ("gb18030", Codec.text .gb18030, ["gb18030_2000"]),
    ("gb2312", Codec.text .eucCn,
      ["chinese", "csiso58gb231280", "euc_cn", "euccn", "eucgb2312_cn", "gb2312_1980", "gb2312_80",
        "iso_ir_58", "x_mac_simp_chinese"]),
    ("gbk", Codec.text .gbk, ["936", "cp936", "ms936"]),
    ("hex_codec", Codec.notText, ["hex"]),
    ("hp_roman8", tabled Table.hpRoman8, ["cp1051", "csHPRoman8", "ibm1051", "r8", "roman8"]),
    ("hz", Codec.text (.hz fun _ => none), ["hz_gb", "hz_gb_2312", "hzgb"]),
    ("idna", Codec.labels, []),
    ("iso2022_jp", Codec.text (.designated iso2022Jp), ["csiso2022jp", "iso2022jp", "iso_2022_jp"]),
    ("iso2022_jp_1", Codec.text (.designated iso2022Jp1), ["iso2022jp_1", "iso_2022_jp_1"]),
    ("iso2022_jp_2", Codec.text (.designated iso2022Jp2), ["iso2022jp_2", "iso_2022_jp_2"]),
    ("iso2022_jp_2004", Codec.text (.designated iso2022Jp2004), ["iso2022jp_2004", "iso_2022_jp_2004"]),
    ("iso2022_jp_3", Codec.text (.designated iso2022Jp3), ["iso2022jp_3", "iso_2022_jp_3"]),
    ("iso2022_jp_ext", Codec.text (.designated iso2022JpNarrow), ["iso2022jp_ext", "iso_2022_jp_ext"]),
    ("iso2022_kr", Codec.text (.designated iso2022Kr), ["csiso2022kr", "iso2022kr", "iso_2022_kr"]),
    ("iso8859_1", Codec.text .latin1, []),
    ("iso8859_10", tabled Table.iso885910,
      ["csisolatin6", "iso_8859_10", "iso_8859_10_1992", "iso_ir_157", "l6", "latin6"]),
    ("iso8859_11", tabled Table.iso885911, ["iso_8859_11", "iso_8859_11_2001", "thai"]),
    ("iso8859_13", tabled Table.iso885913, ["iso_8859_13", "l7", "latin7"]),
    ("iso8859_14", tabled Table.iso885914,
      ["iso_8859_14", "iso_8859_14_1998", "iso_celtic", "iso_ir_199", "l8", "latin8"]),
    ("iso8859_15", tabled Table.iso885915, ["iso_8859_15", "l9", "latin9"]),
    ("iso8859_16", tabled Table.iso885916,
      ["iso_8859_16", "iso_8859_16_2001", "iso_ir_226", "l10", "latin10"]),
    ("iso8859_2", tabled Table.iso88592,
      ["csisolatin2", "iso_8859_2", "iso_8859_2_1987", "iso_ir_101", "l2", "latin2"]),
    ("iso8859_3", tabled Table.iso88593,
      ["csisolatin3", "iso_8859_3", "iso_8859_3_1988", "iso_ir_109", "l3", "latin3"]),
    ("iso8859_4", tabled Table.iso88594,
      ["csisolatin4", "iso_8859_4", "iso_8859_4_1988", "iso_ir_110", "l4", "latin4"]),
    ("iso8859_5", tabled Table.iso88595,
      ["csisolatincyrillic", "cyrillic", "iso_8859_5", "iso_8859_5_1988", "iso_ir_144"]),
    ("iso8859_6", tabled Table.iso88596,
      ["arabic", "asmo_708", "csisolatinarabic", "ecma_114", "iso_8859_6", "iso_8859_6_1987",
        "iso_ir_127"]),
    ("iso8859_7", tabled Table.iso88597,
      ["csisolatingreek", "ecma_118", "elot_928", "greek", "greek8", "iso_8859_7", "iso_8859_7_1987",
        "iso_ir_126"]),
    ("iso8859_8", tabled Table.iso88598,
      ["csisolatinhebrew", "hebrew", "iso_8859_8", "iso_8859_8_1988", "iso_ir_138"]),
    ("iso8859_9", tabled Table.iso88599,
      ["csisolatin5", "iso_8859_9", "iso_8859_9_1989", "iso_ir_148", "l5", "latin5"]),
    ("johab", Codec.text (.johab false '\\'), ["cp1361", "ms1361"]),
    ("koi8_r", tabled Table.koi8R, ["cskoi8r"]),
    ("koi8_t", tabled Table.koi8T, []),
    ("koi8_u", tabled Table.koi8U, []),
    ("kz1048", tabled Table.kz1048, ["kz_1048", "rk1048", "strk1048_2002"]),
    ("latin_1", Codec.text .latin1,
      ["8859", "cp819", "csisolatin1", "ibm819", "iso8859", "iso8859_1", "iso_8859_1",
        "iso_8859_1_1987", "iso_ir_100", "l1", "latin", "latin1"]),
    ("mac_arabic", tabled Table.macArabic, []),
    ("mac_croatian", tabled Table.macCroatian, []),
    ("mac_cyrillic", tabled Table.macCyrillic, ["maccyrillic"]),
    ("mac_farsi", tabled Table.macFarsi, []),
    ("mac_greek", tabled Table.macGreek, ["macgreek"]),
    ("mac_iceland", tabled Table.macIceland, ["maciceland"]),
    ("mac_latin2", tabled Table.macLatin2, ["mac_centeuro", "maccentraleurope", "maclatin2"]),
    ("mac_roman", tabled Table.macRoman, ["macintosh", "macroman"]),
    ("mac_romanian", tabled Table.macRomanian, []),
    ("mac_turkish", tabled Table.macTurkish, ["macturkish"]),
    ("palmos", tabled Table.palmos, []),
    ("ptcp154", tabled Table.ptcp154, ["cp154", "csptcp154", "cyrillic_asian", "pt154"]),
    ("punycode", Codec.punycode, []),
    ("quopri_codec", Codec.notText, ["quopri", "quoted_printable", "quotedprintable"]),
    ("raw_unicode_escape", Codec.text .numberEscapes, []),
    ("rot_13", Codec.notText, ["rot13"]),
    ("shift_jis", Codec.text .shiftJis, ["csshiftjis", "s_jis", "shiftjis", "sjis", "x_mac_japanese"]),
    ("shift_jis_2004", Codec.text (.shiftJis0213 true), ["s_jis_2004", "shiftjis2004", "sjis_2004"]),
    ("shift_jisx0213", Codec.text (.shiftJis0213 false), ["s_jisx0213", "shiftjisx0213", "sjisx0213"]),
    ("tis_620", tabled Table.tis620,
      ["iso_ir_166", "tis620", "tis_620_0", "tis_620_2529_0", "tis_620_2529_1"]),
    ("undefined", Codec.undefined, []),
    ("unicode_escape", Codec.text .quotedEscapes, []),
    ("utf_16", Codec.markedUtf16, ["u16", "utf16"]),
    ("utf_16_be", Codec.text (.utf16 true), ["unicodebigunmarked", "utf_16be"]),
    ("utf_16_le", Codec.text (.utf16 false), ["unicodelittleunmarked", "utf_16le"]),
    ("utf_32", Codec.markedUtf32, ["u32", "utf32"]),
    ("utf_32_be", Codec.text (.utf32 true), ["utf_32be"]),
    ("utf_32_le", Codec.text (.utf32 false), ["utf_32le"]),
    ("utf_7", Codec.text (.utf7 looseUtf7), ["u7", "unicode_1_1_utf_7", "utf7"]),
    ("utf_8", Codec.text .utf8, ["cp65001", "u8", "utf", "utf8", "utf8_ucs2", "utf8_ucs4"]),
    ("utf_8_sig", Codec.text .utf8, []),
    ("uu_codec", Codec.notText, ["uu"]),
    ("zlib_codec", Codec.notText, ["zip", "zlib"])]

/-- Writes a name in lower case, with one underscore for all that is neither letter, digit nor point. -/
def plainName (name : List Char) : String :=
  let keep (c : Char) : Bool := c.isAlphanum || c = '.'
  let marked := name.map fun c => if keep c then c.toLower else '_'
  let words := (Text.splitChars '_' marked).filter (!·.isEmpty)
  "_".intercalate (words.map String.ofList)

/-- The codec that has a plain name besides its own. -/
def otherwiseNamed? (name : String) : Option Codec :=
  (codecs.find? fun (_, _, others) => others.contains name).map (·.2.1)

/-- The codec of a name. Points may stand for underscores in a name that is not the codec's own. -/
def ofName? (name : List Char) : Option Codec :=
  let plain := plainName name
  otherwiseNamed? plain <|> otherwiseNamed? (Text.replaceChar '.' '_' plain)
    <|> (codecs.lookup plain).map (·.1)

end GirDoc.SourceEncoding
