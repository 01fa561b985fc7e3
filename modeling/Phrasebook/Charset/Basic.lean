import Phrasebook.Charset.SingleByte

/-! The character sets of files and the labels they are asked for by. -/

namespace Phrasebook

/-- How the bytes of a file stand for characters. -/
inductive Charset where
  | utf8
  | utf16 (bigEndian : Bool)
  /-- One byte a character; the list holds the code points of the bytes from 128 on. -/
  | singleByte (name : String) (upper : List Nat)
  /-- Characters may take several bytes. No tables of them are kept here: a decoder is asked for the text. -/
  | multiByte (name : String)
  /-- Bytes below 128 are ASCII characters, and others are in the private use area. -/
  | userDefined
  /-- A set that is not to be decoded: only the empty file has a text. -/
  | replacement
deriving DecidableEq, Repr

namespace Charset

/-- The name of a character set. -/
def name : Charset → String
  | .utf8 => "UTF-8"
  | .utf16 true => "UTF-16BE"
  | .utf16 false => "UTF-16LE"
  | .singleByte name _ => name
  | .multiByte name => name
  | .userDefined => "x-user-defined"
  | .replacement => "replacement"

/-- The character sets, each with its labels in lower case. -/
def labels : List (Charset × List String) := [
  (.utf8, ["unicode-1-1-utf-8", "unicode11utf8", "unicode20utf8", "utf-8", "utf8",
    "x-unicode20utf8"]),
  (.singleByte "IBM866" ibm866, ["866", "cp866", "csibm866", "ibm866"]),
  (.singleByte "ISO-8859-2" iso8859Part2, ["csisolatin2", "iso-8859-2", "iso-ir-101",
    "iso8859-2", "iso88592", "iso_8859-2", "iso_8859-2:1987", "l2", "latin2"]),
  (.singleByte "ISO-8859-3" iso8859Part3, ["csisolatin3", "iso-8859-3", "iso-ir-109",
    "iso8859-3", "iso88593", "iso_8859-3", "iso_8859-3:1988", "l3", "latin3"]),
  (.singleByte "ISO-8859-4" iso8859Part4, ["csisolatin4", "iso-8859-4", "iso-ir-110",
    "iso8859-4", "iso88594", "iso_8859-4", "iso_8859-4:1988", "l4", "latin4"]),
  (.singleByte "ISO-8859-5" iso8859Part5, ["csisolatincyrillic", "cyrillic", "iso-8859-5",
    "iso-ir-144", "iso8859-5", "iso88595", "iso_8859-5", "iso_8859-5:1988"]),
  (.singleByte "ISO-8859-6" iso8859Part6, ["arabic", "asmo-708", "csiso88596e", "csiso88596i",
    "csisolatinarabic", "ecma-114", "iso-8859-6", "iso-8859-6-e", "iso-8859-6-i", "iso-ir-127",
    "iso8859-6", "iso88596", "iso_8859-6", "iso_8859-6:1987"]),
  (.singleByte "ISO-8859-7" iso8859Part7, ["csisolatingreek", "ecma-118", "elot_928", "greek",
    "greek8", "iso-8859-7", "iso-ir-126", "iso8859-7", "iso88597", "iso_8859-7",
    "iso_8859-7:1987", "sun_eu_greek"]),
  (.singleByte "ISO-8859-8" iso8859Part8, ["csiso88598e", "csisolatinhebrew", "hebrew",
    "iso-8859-8", "iso-8859-8-e", "iso-ir-138", "iso8859-8", "iso88598", "iso_8859-8",
    "iso_8859-8:1988", "visual"]),
  (.singleByte "ISO-8859-8-I" iso8859Part8, ["csiso88598i", "iso-8859-8-i", "logical"]),
  (.singleByte "ISO-8859-10" iso8859Part10, ["csisolatin6", "iso-8859-10", "iso-ir-157",
    "iso8859-10", "iso885910", "l6", "latin6"]),
  (.singleByte "ISO-8859-13" iso8859Part13, ["iso-8859-13", "iso8859-13", "iso885913"]),
  (.singleByte "ISO-8859-14" iso8859Part14, ["iso-8859-14", "iso8859-14", "iso885914"]),
  (.singleByte "ISO-8859-15" iso8859Part15, ["csisolatin9", "iso-8859-15", "iso8859-15",
    "iso885915", "iso_8859-15", "l9"]),
  (.singleByte "ISO-8859-16" iso8859Part16, ["iso-8859-16"]),
  (.singleByte "KOI8-R" koi8R, ["cskoi8r", "koi", "koi8", "koi8-r", "koi8_r"]),
  (.singleByte "KOI8-U" koi8U, ["koi8-ru", "koi8-u"]),
  (.singleByte "macintosh" macintosh, ["csmacintosh", "mac", "macintosh", "x-mac-roman"]),
  (.singleByte "windows-874" windows874, ["dos-874", "iso-8859-11", "iso8859-11", "iso885911",
    "tis-620", "windows-874"]),
  (.singleByte "windows-1250" windows1250, ["cp1250", "windows-1250", "x-cp1250"]),
  (.singleByte "windows-1251" windows1251, ["cp1251", "windows-1251", "x-cp1251"]),
  (.singleByte "windows-1252" windows1252, ["ansi_x3.4-1968", "ascii", "cp1252", "cp819",
    "csisolatin1", "ibm819", "iso-8859-1", "iso-ir-100", "iso8859-1", "iso88591", "iso_8859-1",
    "iso_8859-1:1987", "l1", "latin1", "us-ascii", "windows-1252", "x-cp1252"]),
  (.singleByte "windows-1253" windows1253, ["cp1253", "windows-1253", "x-cp1253"]),
  (.singleByte "windows-1254" windows1254, ["cp1254", "csisolatin5", "iso-8859-9", "iso-ir-148",
    "iso8859-9", "iso88599", "iso_8859-9", "iso_8859-9:1989", "l5", "latin5", "windows-1254",
    "x-cp1254"]),
  (.singleByte "windows-1255" windows1255, ["cp1255", "windows-1255", "x-cp1255"]),
  (.singleByte "windows-1256" windows1256, ["cp1256", "windows-1256", "x-cp1256"]),
  (.singleByte "windows-1257" windows1257, ["cp1257", "windows-1257", "x-cp1257"]),
  (.singleByte "windows-1258" windows1258, ["cp1258", "windows-1258", "x-cp1258"]),
  (.singleByte "x-mac-cyrillic" macCyrillic, ["x-mac-cyrillic", "x-mac-ukrainian"]),
  (.multiByte "GBK", ["chinese", "csgb2312", "csiso58gb231280", "gb2312", "gb_2312",
    "gb_2312-80", "gbk", "iso-ir-58", "x-gbk"]),
  (.multiByte "gb18030", ["gb18030"]),
  (.multiByte "Big5", ["big5", "big5-hkscs", "cn-big5", "csbig5", "x-x-big5"]),
  (.multiByte "EUC-JP", ["cseucpkdfmtjapanese", "euc-jp", "x-euc-jp"]),
  (.multiByte "ISO-2022-JP", ["csiso2022jp", "iso-2022-jp"]),
  (.multiByte "Shift_JIS", ["csshiftjis", "ms932", "ms_kanji", "shift-jis", "shift_jis", "sjis",
    "windows-31j", "x-sjis"]),
  (.multiByte "EUC-KR", ["cseuckr", "csksc56011987", "euc-kr", "iso-ir-149", "korean",
    "ks_c_5601-1987", "ks_c_5601-1989", "ksc5601", "ksc_5601", "windows-949"]),
  (.replacement, ["csiso2022kr", "hz-gb-2312", "iso-2022-cn", "iso-2022-cn-ext", "iso-2022-kr",
    "replacement"]),
  (.utf16 true, ["unicodefffe", "utf-16be"]),
  (.utf16 false, ["csunicode", "iso-10646-ucs-2", "ucs-2", "unicode", "unicodefeff", "utf-16",
    "utf-16le"]),
  (.userDefined, ["x-user-defined"])]

/-- Whether a character counts as a blank around a label. -/
def isLabelBlank (c : Char) : Bool :=
  c == '\t' || c == '\n' || c == '\x0c' || c == '\r' || c == ' '

/-- A label without blanks around it and with its ASCII letters in lower case. -/
def normalLabel (label : String) : String :=
  let trimmed := ((label.toList.dropWhile isLabelBlank).reverse.dropWhile isLabelBlank).reverse
  String.ofList (trimmed.map fun c => if 'A' ≤ c ∧ c ≤ 'Z' then Char.ofNat (c.toNat + 32) else c)

/-- The character set of a label. -/
def ofLabel? (label : String) : Option Charset :=
  (labels.find? fun entry => entry.2.contains (normalLabel label)).map Prod.fst

end Charset

end Phrasebook
