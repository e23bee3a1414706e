import ChallengeLogin.Text.Blank
import ChallengeLogin.Text.Charset.Multibyte
import ChallengeLogin.Text.Charset.SingleByte

namespace ChallengeLogin.Text

inductive Charset where
  | utf8
  | utf16 (bigEndian : Bool)
  | singleByte (upper : Charset.UpperHalf)
  | multibyte (charset : Charset.Multibyte)
  | userDefined
  | replacement

namespace Charset

section Decoding

-- One sixteen-bit unit, or a byte left alone at the end
def units (bigEndian : Bool) : Bytes → List (Option Nat)
  | [] => []
  | [_] => [none]
  | a :: b :: rest =>
    some (if bigEndian then a.toNat * 256 + b.toNat else b.toNat * 256 + a.toNat) ::
      units bigEndian rest

def isHigh (u : Nat) : Bool := 0xD800 ≤ u && u < 0xDC00

def isLow (u : Nat) : Bool := 0xDC00 ≤ u && u < 0xE000

-- Joins the surrogates of a list of units. `high` is one that still waits for its other half; the
-- end of the bytes is malformed once, whatever is left over.
def joinUnits (high : Option Nat) : List (Option Nat) → List Char
  | [] => if high.isSome then [Utf8.replacement] else []
  | none :: _ => [Utf8.replacement]
  | some u :: rest =>
    match high with
    | some h =>
      if isLow u then
        Char.ofNat ((h - 0xD800) * 1024 + (u - 0xDC00) + 0x10000) :: joinUnits none rest
      else if isHigh u then Utf8.replacement :: joinUnits (some u) rest
      else Utf8.replacement :: Char.ofNat u :: joinUnits none rest
    | none =>
      if isHigh u then joinUnits (some u) rest
      else if isLow u then Utf8.replacement :: joinUnits none rest
      else Char.ofNat u :: joinUnits none rest

def decodeUtf16 (bigEndian : Bool) (bs : Bytes) : List Char :=
  joinUnits none (units bigEndian bs)

def userDefinedChar (b : UInt8) : Char :=
  if b.toNat < 0x80 then Char.ofNat b.toNat else Char.ofNat (0xF700 + b.toNat)

-- The text that bytes spell in a charset. What is malformed becomes U+FFFD.
def decode [Decoders] (charset : Charset) (bs : Bytes) : List Char :=
  match charset with
  | .utf8 => Utf8.decodeLossy bs
  | .utf16 bigEndian => decodeUtf16 bigEndian bs
  | .singleByte upper => upper.decode bs
  | .multibyte charset => Decoders.decode charset bs
  | .userDefined => bs.map userDefinedChar
  | .replacement => if bs.isEmpty then [] else [Utf8.replacement]

-- The charset that a byte order mark announces, and the bytes behind it.
def byteOrderMark? : Bytes → Option (Charset × Bytes)
  | 0xEF :: 0xBB :: 0xBF :: rest => some (.utf8, rest)
  | 0xFE :: 0xFF :: rest => some (.utf16 true, rest)
  | 0xFF :: 0xFE :: rest => some (.utf16 false, rest)
  | _ => none

-- The text that bytes spell, by their byte order mark or else in the given charset. The mark is not
-- part of the text.
def decodeMarked [Decoders] (charset : Charset) (bs : Bytes) : List Char :=
  match byteOrderMark? bs with
  | some (marked, rest) => marked.decode rest
  | none => charset.decode bs

end Decoding

section Labels

-- The labels of one charset
def named (labels : List String) (charset : Charset) : List (String × Charset) :=
  labels.map (·, charset)

def labels : List (String × Charset) :=
  named ["unicode-1-1-utf-8", "unicode11utf8", "unicode20utf8", "utf-8", "utf8",
    "x-unicode20utf8"] .utf8 ++
  named ["866", "cp866", "csibm866", "ibm866"] (.singleByte ibm866) ++
  named ["csisolatin2", "iso-8859-2", "iso-ir-101", "iso8859-2", "iso88592", "iso_8859-2",
    "iso_8859-2:1987", "l2", "latin2"] (.singleByte iso8859x2) ++
  named ["csisolatin3", "iso-8859-3", "iso-ir-109", "iso8859-3", "iso88593", "iso_8859-3",
    "iso_8859-3:1988", "l3", "latin3"] (.singleByte iso8859x3) ++
  named ["csisolatin4", "iso-8859-4", "iso-ir-110", "iso8859-4", "iso88594", "iso_8859-4",
    "iso_8859-4:1988", "l4", "latin4"] (.singleByte iso8859x4) ++
  named ["csisolatincyrillic", "cyrillic", "iso-8859-5", "iso-ir-144", "iso8859-5", "iso88595",
    "iso_8859-5", "iso_8859-5:1988"] (.singleByte iso8859x5) ++
  named ["arabic", "asmo-708", "csiso88596e", "csiso88596i", "csisolatinarabic", "ecma-114",
    "iso-8859-6", "iso-8859-6-e", "iso-8859-6-i", "iso-ir-127", "iso8859-6", "iso88596",
    "iso_8859-6", "iso_8859-6:1987"] (.singleByte iso8859x6) ++
  named ["csisolatingreek", "ecma-118", "elot_928", "greek", "greek8", "iso-8859-7",
    "iso-ir-126", "iso8859-7", "iso88597", "iso_8859-7", "iso_8859-7:1987", "sun_eu_greek"]
    (.singleByte iso8859x7) ++
  named ["csiso88598e", "csisolatinhebrew", "hebrew", "iso-8859-8", "iso-8859-8-e",
    "iso-ir-138", "iso8859-8", "iso88598", "iso_8859-8", "iso_8859-8:1988", "visual",
    "csiso88598i", "iso-8859-8-i", "logical"] (.singleByte iso8859x8) ++
  named ["csisolatin6", "iso-8859-10", "iso-ir-157", "iso8859-10", "iso885910", "l6", "latin6"]
    (.singleByte iso8859x10) ++
  named ["iso-8859-13", "iso8859-13", "iso885913"] (.singleByte iso8859x13) ++
  named ["iso-8859-14", "iso8859-14", "iso885914"] (.singleByte iso8859x14) ++
  named ["csisolatin9", "iso-8859-15", "iso8859-15", "iso885915", "iso_8859-15", "l9"]
    (.singleByte iso8859x15) ++
  named ["iso-8859-16"] (.singleByte iso8859x16) ++
  named ["cskoi8r", "koi", "koi8", "koi8-r", "koi8_r"] (.singleByte koi8r) ++
  named ["koi8-ru", "koi8-u"] (.singleByte koi8u) ++
  named ["csmacintosh", "mac", "macintosh", "x-mac-roman"] (.singleByte macintosh) ++
  named ["dos-874", "iso-8859-11", "iso8859-11", "iso885911", "tis-620", "windows-874"]
    (.singleByte windows874) ++
  named ["cp1250", "windows-1250", "x-cp1250"] (.singleByte windows1250) ++
  named ["cp1251", "windows-1251", "x-cp1251"] (.singleByte windows1251) ++
  named ["ansi_x3.4-1968", "ascii", "cp1252", "cp819", "csisolatin1", "ibm819", "iso-8859-1",
    "iso-ir-100", "iso8859-1", "iso88591", "iso_8859-1", "iso_8859-1:1987", "l1", "latin1",
    "us-ascii", "windows-1252", "x-cp1252"] (.singleByte windows1252) ++
  named ["cp1253", "windows-1253", "x-cp1253"] (.singleByte windows1253) ++
  named ["cp1254", "csisolatin5", "iso-8859-9", "iso-ir-148", "iso8859-9", "iso88599",
    "iso_8859-9", "iso_8859-9:1989", "l5", "latin5", "windows-1254", "x-cp1254"]
    (.singleByte windows1254) ++
  named ["cp1255", "windows-1255", "x-cp1255"] (.singleByte windows1255) ++
  named ["cp1256", "windows-1256", "x-cp1256"] (.singleByte windows1256) ++
  named ["cp1257", "windows-1257", "x-cp1257"] (.singleByte windows1257) ++
  named ["cp1258", "windows-1258", "x-cp1258"] (.singleByte windows1258) ++
  named ["x-mac-cyrillic", "x-mac-ukrainian"] (.singleByte macCyrillic) ++
  named ["chinese", "csgb2312", "csiso58gb231280", "gb2312", "gb_2312", "gb_2312-80", "gbk",
    "iso-ir-58", "x-gbk"] (.multibyte .gbk) ++
  named ["gb18030"] (.multibyte .gb18030) ++
  named ["big5", "big5-hkscs", "cn-big5", "csbig5", "x-x-big5"] (.multibyte .big5) ++
  named ["cseucpkdfmtjapanese", "euc-jp", "x-euc-jp"] (.multibyte .eucJp) ++
  named ["csiso2022jp", "iso-2022-jp"] (.multibyte .iso2022Jp) ++
  named ["csshiftjis", "ms932", "ms_kanji", "shift-jis", "shift_jis", "sjis", "windows-31j",
    "x-sjis"] (.multibyte .shiftJis) ++
  named ["cseuckr", "csksc56011987", "euc-kr", "iso-ir-149", "korean", "ks_c_5601-1987",
    "ks_c_5601-1989", "ksc5601", "ksc_5601", "windows-949"] (.multibyte .eucKr) ++
  named ["csiso2022kr", "hz-gb-2312", "iso-2022-cn", "iso-2022-cn-ext", "iso-2022-kr",
    "replacement"] .replacement ++
  named ["unicodefffe", "utf-16be"] (.utf16 true) ++
  named ["csunicode", "iso-10646-ucs-2", "ucs-2", "unicode", "unicodefeff", "utf-16",
    "utf-16le"] (.utf16 false) ++
  named ["x-user-defined"] .userDefined

def isLabelSpace (c : Char) : Bool :=
  c = ' ' || c = '\t' || c = '\n' || c = '\x0c' || c = '\r'

def lower (c : Char) : Char :=
  if 65 ≤ c.toNat && c.toNat ≤ 90 then Char.ofNat (c.toNat + 32) else c

-- The charset that a label names, in either case and with blanks around it.
def ofLabel? (label : List Char) : Option Charset :=
  labels.lookup (String.ofList ((trim isLabelSpace label).map lower))

end Labels

end Charset

end ChallengeLogin.Text
