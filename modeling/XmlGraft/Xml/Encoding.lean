import XmlGraft.Text.Charset.Double
import XmlGraft.Text.Charset.Page

/-!
# Encodings — what the name of an encoding stands for

The declaration of a document may name its encoding, in letters of either case. Many encodings have
several names.
-/

namespace XmlGraft.Xml

open Text

/-- How the bytes of a document are characters. -/
inductive Encoding
  | utf8
  | charset (set : Charset)

/-- Other names of encodings, in upper case, under the names by which sets are listed. -/
def encodingAliases : List (String × List String) := [
  ("UTF-8", ["UTF8"]),
  ("US-ASCII", ["ASCII", "ISO646-US", "ISO-IR-6", "CP367", "IBM367", "US", "CSASCII"]),
  ("ISO-8859-1", ["ISO_8859-1", "ISO8859-1", "ISO-IR-100", "ISO-LATIN-1", "LATIN1", "L1", "CP819",
    "IBM819", "CSISOLATIN1"]),
  ("ISO-8859-2", ["ISO_8859-2", "ISO8859-2", "ISO-IR-101", "ISO-LATIN-2", "LATIN2", "L2",
    "CSISOLATIN2"]),
  ("ISO-8859-3", ["ISO_8859-3", "ISO8859-3", "ISO-IR-109", "LATIN3", "L3", "CSISOLATIN3"]),
  ("ISO-8859-4", ["ISO_8859-4", "ISO8859-4", "ISO-IR-110", "LATIN4", "L4", "CSISOLATIN4"]),
  ("ISO-8859-5", ["ISO_8859-5", "ISO8859-5", "ISO-IR-144", "CYRILLIC", "CSISOLATINCYRILLIC"]),
  ("ISO-8859-6", ["ISO_8859-6", "ISO8859-6", "ISO-IR-127", "ARABIC", "ASMO-708", "ECMA-114",
    "CSISOLATINARABIC"]),
  ("ISO-8859-7", ["ISO_8859-7", "ISO8859-7", "ISO-IR-126", "GREEK", "GREEK8", "ECMA-118",
    "ELOT_928", "CSISOLATINGREEK"]),
  ("ISO-8859-8", ["ISO_8859-8", "ISO8859-8", "ISO-IR-138", "HEBREW", "CSISOLATINHEBREW"]),
  ("ISO-8859-9", ["ISO_8859-9", "ISO8859-9", "ISO-IR-148", "LATIN5", "L5", "CSISOLATIN5"]),
  ("ISO-8859-10", ["ISO_8859-10", "ISO8859-10", "ISO-IR-157", "LATIN6", "L6", "CSISOLATIN6"]),
  ("ISO-8859-11", ["ISO_8859-11", "ISO8859-11"]),
  ("ISO-8859-13", ["ISO_8859-13", "ISO8859-13", "ISO-IR-179", "LATIN7", "L7"]),
  ("ISO-8859-14", ["ISO_8859-14", "ISO8859-14", "ISO-IR-199", "ISO-CELTIC", "LATIN8", "L8"]),
  ("ISO-8859-15", ["ISO_8859-15", "ISO8859-15", "ISO-IR-203", "LATIN-9"]),
  ("ISO-8859-16", ["ISO_8859-16", "ISO8859-16", "ISO-IR-226", "LATIN10", "L10"]),
  ("KOI8-R", ["CSKOI8R"]),
  ("WINDOWS-1250", ["CP1250", "MS-EE"]),
  ("WINDOWS-1251", ["CP1251", "MS-CYRL"]),
  ("WINDOWS-1252", ["CP1252", "MS-ANSI"]),
  ("WINDOWS-1253", ["CP1253", "MS-GREEK"]),
  ("WINDOWS-1254", ["CP1254", "MS-TURK"]),
  ("WINDOWS-1255", ["CP1255", "MS-HEBR"]),
  ("WINDOWS-1256", ["CP1256", "MS-ARAB"]),
  ("WINDOWS-1257", ["CP1257", "WINBALTRIM"]),
  ("WINDOWS-1258", ["CP1258"]),
  ("WINDOWS-874", ["CP874"]),
  ("IBM850", ["CP850", "CSPC850MULTILINGUAL"]),
  ("IBM862", ["CP862", "CSPC862LATINHEBREW"]),
  ("IBM866", ["CP866", "CSIBM866"]),
  ("MACINTOSH", ["MAC", "MACROMAN", "CSMACINTOSH"]),
  ("HP-ROMAN8", ["ROMAN8", "R8", "CSHPROMAN8"]),
  ("PT154", ["PTCP154", "CP154", "CYRILLIC-ASIAN", "CSPTCP154"]),
  ("KZ-1048", ["RK1048", "STRK1048-2002", "CSKZ1048"]),
  ("TIS-620", ["TIS620", "TIS620-0", "TIS620.2529-1", "TIS620.2533-0", "TIS620.2533-1",
    "ISO-IR-166"]),
  ("EUC-JP", ["EUCJP", "EXTENDED_UNIX_CODE_PACKED_FORMAT_FOR_JAPANESE",
    "CSEUCPKDFMTJAPANESE"]),
  ("SHIFT_JIS", ["SHIFT-JIS", "SJIS", "MS_KANJI", "CSSHIFTJIS"]),
  ("GB2312", ["EUC-CN", "EUCCN", "CN-GB", "CSGB2312"]),
  ("WINDOWS-936", ["CP936", "MS936"]),
  ("BIG5", ["BIG-5", "BIG-FIVE", "BIGFIVE", "CN-BIG5", "CSBIG5"]),
  ("EUC-KR", ["EUCKR", "CSEUCKR"]),
  ("CP949", ["UHC"])]

/-- The sets that encodings have. -/
def encodingSets : List (String × Charset) := [
  ("US-ASCII", .ascii), ("ISO-8859-1", .latin1), ("ISO-8859-2", .latin2), ("ISO-8859-3", .latin3),
  ("ISO-8859-4", .latin4), ("ISO-8859-5", .latinCyrillic), ("ISO-8859-6", .latinArabic),
  ("ISO-8859-7", .latinGreek), ("ISO-8859-8", .latinHebrew), ("ISO-8859-9", .latin5),
  ("ISO-8859-10", .latin6), ("ISO-8859-11", .latinThai), ("ISO-8859-13", .latin7),
  ("ISO-8859-14", .latin8), ("ISO-8859-15", .latin9), ("ISO-8859-16", .latin10),
  ("KOI8-R", .koi8R), ("KOI8-U", .koi8U), ("KOI8-T", .koi8T),
  ("WINDOWS-1250", .windows1250), ("WINDOWS-1251", .windows1251), ("WINDOWS-1252", .windows1252),
  ("WINDOWS-1253", .windows1253), ("WINDOWS-1254", .windows1254), ("WINDOWS-1255", .windows1255),
  ("WINDOWS-1256", .windows1256), ("WINDOWS-1257", .windows1257), ("WINDOWS-1258", .windows1258),
  ("WINDOWS-874", .windows874), ("IBM850", .pc850), ("IBM862", .pc862), ("IBM866", .pc866),
  ("MACINTOSH", .macintosh), ("HP-ROMAN8", .hpRoman8), ("PT154", .cyrillicAsian),
  ("KZ-1048", .kazakh), ("TIS-620", .thai),
  ("EUC-JP", .eucJapanese), ("SHIFT_JIS", .shiftJis), ("CP932", .windows932),
  ("GBK", .gbk), ("GB2312", .gb2312), ("WINDOWS-936", .windows936), ("GB18030", .gbk),
  ("BIG5", .big5), ("EUC-KR", .eucKorean), ("CP949", .eucKorean)]

/-- Encodings that are known, but of which no character beyond ASCII is read. -/
def asciiEncodings : List String := [
  "KOI8-RU", "CP1131", "MACCENTRALEUROPE", "MACICELAND", "MACCROATIAN", "MACROMANIA", "MACCYRILLIC",
  "MACUKRAINE", "MACGREEK", "MACTURKISH", "MACHEBREW", "MACARABIC", "MACTHAI", "NEXTSTEP",
  "ARMSCII-8", "GEORGIAN-ACADEMY", "GEORGIAN-PS", "MULELAO-1", "CP1133", "IBM-CP1133", "VISCII",
  "VISCII1.1-1", "CSVISCII", "TCVN", "TCVN-5712", "TCVN5712-1", "CP950", "BIG5-HKSCS", "BIG5HKSCS",
  "EUC-TW", "EUCTW", "CSEUCTW", "JOHAB", "CP1361", "ISO-2022-JP", "CSISO2022JP", "ISO-2022-JP-1",
  "ISO-2022-JP-2", "CSISO2022JP2", "ISO-2022-CN", "CSISO2022CN", "ISO-2022-CN-EXT", "ISO-2022-KR",
  "CSISO2022KR", "HZ", "HZ-GB-2312", "UTF-7", "UNICODE-1-1-UTF-7", "CSUNICODE11UTF7"]

namespace Encoding

/-- The name by which an encoding is listed, given one of its names in upper case. -/
def listedName (name : String) : String :=
  ((encodingAliases.find? fun entry => entry.2.contains name).map (·.1)).getD name

/-- The encoding with a given name. -/
def ofName? (name : String) : Option Encoding :=
  let listed := listedName (String.ofList (name.toList.map Char.toUpper))
  if listed = "UTF-8" then some .utf8
  else if asciiEncodings.contains listed then some (.charset .ascii)
  else (encodingSets.lookup listed).map .charset

/-- The characters that the UTF-8 bytes of some characters are in an encoding. -/
def decode (cs : List Char) : Encoding → Option (List Char)
  | .utf8 => some cs
  | .charset set => set.decode (cs.flatMap String.utf8EncodeChar)

end Encoding

end XmlGraft.Xml
