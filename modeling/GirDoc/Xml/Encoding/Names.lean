import GirDoc.Text.Charset.Chinese
import GirDoc.Text.Charset.Composed
import GirDoc.Text.Charset.Designated
import GirDoc.Text.Charset.Edition
import GirDoc.Text.Charset.Escaped
import GirDoc.Text.Charset.Japanese
import GirDoc.Text.Charset.Korean
import GirDoc.Text.Charset.Table
import GirDoc.Text.Charset.Traditional
import GirDoc.Text.Charset.Utf7

/-!
# Names of encodings

The encodings that the declaration of a document can name. Names are compared without regard to case.
-/

namespace GirDoc.Xml

open Text (Charset)
open Text.Charset

/-- The encoding of a document: UTF-8, or another from which its text is converted. -/
inductive Encoding where
  | utf8
  | converted (charset : Charset)

/-- The names of the encodings from which text is converted, in upper case. -/
def convertedNames : List (Charset × List String) :=
  [(.ascii,
      ["US-ASCII", "ASCII", "ISO646-US", "ISO-IR-6", "ANSI_X3.4-1968", "ANSI_X3.4-1986", "CP367",
        "IBM367", "US", "CSASCII"]),
    (.latin1,
      ["ISO-8859-1", "ISO_8859-1", "ISO8859-1", "ISO-IR-100", "CP819", "IBM819", "LATIN1", "L1",
        "CSISOLATIN1", "ISO-LATIN-1"]),
    (.table Table.iso88592,
      ["ISO-8859-2", "ISO_8859-2", "ISO8859-2", "ISO-IR-101", "LATIN2", "L2", "CSISOLATIN2",
        "ISO-LATIN-2"]),
    (.table Table.iso88593,
      ["ISO-8859-3", "ISO_8859-3", "ISO8859-3", "ISO-IR-109", "LATIN3", "L3", "CSISOLATIN3"]),
    (.table Table.iso88594,
      ["ISO-8859-4", "ISO_8859-4", "ISO8859-4", "ISO-IR-110", "LATIN4", "L4", "CSISOLATIN4"]),
    (.table Table.iso88595,
      ["ISO-8859-5", "ISO_8859-5", "ISO8859-5", "ISO-IR-144", "CYRILLIC", "CSISOLATINCYRILLIC"]),
    (.table Table.iso88596,
      ["ISO-8859-6", "ISO_8859-6", "ISO8859-6", "ISO-IR-127", "ECMA-114", "ASMO-708", "ARABIC",
        "CSISOLATINARABIC"]),
    (.table Table.iso88597,
      ["ISO-8859-7", "ISO_8859-7", "ISO8859-7", "ISO-IR-126", "ECMA-118", "ELOT_928", "GREEK8",
        "GREEK", "CSISOLATINGREEK"]),
    (.table Table.iso88598,
      ["ISO-8859-8", "ISO_8859-8", "ISO8859-8", "ISO-IR-138", "HEBREW", "CSISOLATINHEBREW"]),
    (.table Table.iso88599,
      ["ISO-8859-9", "ISO_8859-9", "ISO8859-9", "ISO-IR-148", "LATIN5", "L5", "CSISOLATIN5"]),
    (.table Table.iso885910,
      ["ISO-8859-10", "ISO_8859-10", "ISO8859-10", "ISO-IR-157", "LATIN6", "L6", "CSISOLATIN6"]),
    (.table Table.iso885911, ["ISO-8859-11", "ISO_8859-11", "ISO8859-11"]),
    (.table Table.iso885913, ["ISO-8859-13", "ISO_8859-13", "ISO8859-13", "ISO-IR-179", "LATIN7", "L7"]),
    (.table Table.iso885914,
      ["ISO-8859-14", "ISO_8859-14", "ISO8859-14", "ISO-IR-199", "LATIN8", "L8", "ISO-CELTIC"]),
    (.table Table.iso885915, ["ISO-8859-15", "ISO_8859-15", "ISO8859-15", "ISO-IR-203", "LATIN-9"]),
    (.table Table.iso885916, ["ISO-8859-16", "ISO_8859-16", "ISO8859-16", "ISO-IR-226", "LATIN10", "L10"]),
    (.table Table.koi8R, ["KOI8-R", "CSKOI8R"]),
    (.table Table.koi8U, ["KOI8-U"]),
    (.table Table.koi8T, ["KOI8-T"]),
    (.table Table.cp1250, ["CP1250", "WINDOWS-1250", "MS-EE"]),
    (.table Table.cp1251, ["CP1251", "WINDOWS-1251", "MS-CYRL"]),
    (.table Table.cp1252, ["CP1252", "WINDOWS-1252", "MS-ANSI"]),
    (.table Table.cp1253, ["CP1253", "WINDOWS-1253", "MS-GREEK"]),
    (.table Table.cp1254, ["CP1254", "WINDOWS-1254", "MS-TURK"]),
    (.hebrew (.table Edition.cp1255), ["CP1255", "WINDOWS-1255", "MS-HEBR"]),
    (.table Table.cp1256, ["CP1256", "WINDOWS-1256", "MS-ARAB"]),
    (.table Table.cp1257, ["CP1257", "WINDOWS-1257", "WINBALTRIM"]),
    (.vietnamese (.table Table.cp1258), ["CP1258", "WINDOWS-1258"]),
    (.table Table.cp850, ["CP850", "IBM850", "CSPC850MULTILINGUAL"]),
    (.table Table.cp862, ["CP862", "IBM862", "CSPC862LATINHEBREW"]),
    (.table Table.cp866, ["CP866", "IBM866", "CSIBM866"]),
    (.table Table.cp874, ["CP874", "WINDOWS-874"]),
    (.table Edition.tis620,
      ["TIS-620", "TIS620", "TIS620-0", "TIS620.2529-1", "TIS620.2533-0", "TIS620.2533-1",
        "ISO-IR-166"]),
    (.table Edition.macRoman, ["MACROMAN", "MACINTOSH", "MAC", "CSMACINTOSH"]),
    (.table Table.macLatin2, ["MACCENTRALEUROPE"]),
    (.table Edition.macIceland, ["MACICELAND"]),
    (.table Edition.macCroatian, ["MACCROATIAN"]),
    (.table Edition.macRomania, ["MACROMANIA"]),
    (.table Edition.macCyrillic, ["MACCYRILLIC"]),
    (.table Edition.macGreek, ["MACGREEK"]),
    (.table Edition.macTurkish, ["MACTURKISH"]),
    (.table Edition.macArabic, ["MACARABIC"]),
    (.table Table.hpRoman8, ["HP-ROMAN8", "ROMAN8", "R8", "CSHPROMAN8"]),
    (.table Table.ptcp154, ["PT154", "PTCP154", "CP154", "CYRILLIC-ASIAN", "CSPTCP154"]),
    (.table Table.kz1048, ["RK1048", "STRK1048-2002", "KZ-1048", "CSKZ1048"]),
    (.table Edition.koi8Ru, ["KOI8-RU"]),
    (.table Edition.cp1131, ["CP1131", "IBM-1131"]),
    (.table Edition.macUkraine, ["MACUKRAINE"]),
    (.table Edition.macHebrew, ["MACHEBREW"]),
    (.table Edition.macThai, ["MACTHAI"]),
    (.table Edition.nextStep, ["NEXTSTEP"]),
    (.table Edition.armscii8, ["ARMSCII-8"]),
    (.table Edition.georgianAcademy, ["GEORGIAN-ACADEMY"]),
    (.table Edition.georgianPs, ["GEORGIAN-PS"]),
    (.table Edition.muleLao, ["MULELAO-1"]),
    (.table Edition.cp1133, ["CP1133", "IBM-CP1133"]),
    (.table Edition.viscii, ["VISCII", "VISCII1.1-1", "CSVISCII"]),
    (.vietnamese (.table Edition.tcvn), ["TCVN", "TCVN-5712", "TCVN5712-1"]),
    (.ofBytes roman?, ["ISO646-JP", "JIS_C6220-1969-RO", "ISO-IR-14", "JP", "CSISO14JISC6220RO"]),
    (.romanNarrow, ["JIS_X0201", "JISX0201-1976", "X0201", "CSHALFWIDTHKATAKANA"]),
    (.chineseAscii, ["ISO646-CN", "GB_1988-80", "ISO-IR-57", "CN", "CSISO57GB1988"]),
    (.eucJp .withPrivate,
      ["EUC-JP", "EUCJP", "EXTENDED_UNIX_CODE_PACKED_FORMAT_FOR_JAPANESE", "CSEUCPKDFMTJAPANESE"]),
    (.romanShiftJis, ["SHIFT_JIS", "SHIFT-JIS", "SJIS", "MS_KANJI", "CSSHIFTJIS"]),
    (.cp932 false, ["CP932"]),
    (.listed { list := listedJp }, ["ISO-2022-JP", "CSISO2022JP"]),
    (.listed { list := listedJp1 }, ["ISO-2022-JP-1"]),
    (.listed { list := listedJp2, endsAtLines := true }, ["ISO-2022-JP-2", "CSISO2022JP2"]),
    (.listed { list := listedJpNarrow }, ["CP50221", "ISO-2022-JP-MS"]),
    (.eucCn, ["EUC-CN", "EUCCN", "GB2312", "CN-GB", "CSGB2312"]),
    (.gbk, ["GBK"]),
    (.cp936, ["CP936", "MS936", "WINDOWS-936"]),
    (.gb18030, ["GB18030"]),
    (.listed { list := listedCn, hasShifts := true, endsAtLines := true },
      ["ISO-2022-CN", "CSISO2022CN", "ISO-2022-CN-EXT"]),
    (.hz fun b => some (Char.ofNat b), ["HZ", "HZ-GB-2312"]),
    (.eucTw, ["EUC-TW", "EUCTW", "CSEUCTW"]),
    (.big5 false, ["BIG5", "BIG-5", "BIG-FIVE", "BIGFIVE", "CN-BIG5", "CSBIG5"]),
    (.privateCp950, ["CP950"]),
    (.big5HongKong true, ["BIG5-HKSCS", "BIG5HKSCS"]),
    (.eucKr false, ["EUC-KR", "EUCKR", "CSEUCKR"]),
    (.cp949 true, ["CP949", "UHC"]),
    (.johab true '₩', ["JOHAB", "CP1361"]),
    (.listed { list := listedKr, hasShifts := true }, ["ISO-2022-KR", "CSISO2022KR"]),
    (.utf7 strictUtf7, ["UTF-7", "UNICODE-1-1-UTF-7", "CSUNICODE11UTF7"]),
    (.universalNames, ["C99"]),
    (.unitEscapes, ["JAVA"])]

/-- The names of UTF-8, in upper case. -/
def utf8Names : List String := ["UTF-8", "UTF8"]

/-- The encoding that a declaration names. -/
def encodingNamed? (name : List Char) : Option Encoding :=
  let name := String.ofList (name.map Char.toUpper)
  if utf8Names.contains name then some .utf8
  else (convertedNames.find? fun (_, names) => names.contains name).map fun (charset, _) => .converted charset

end GirDoc.Xml
