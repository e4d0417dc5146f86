import ImageRelease.Host.Punycode
import ImageRelease.Text.CodePage.Dos
import ImageRelease.Text.CodePage.Mainframe
import ImageRelease.Text.CodePage.Macintosh
import ImageRelease.Text.CodePage.Regional
import ImageRelease.Text.CodePage.Windows
import ImageRelease.Text.Escaped
import ImageRelease.Text.Switched
import ImageRelease.Text.Units
import ImageRelease.Text.Utf7
import ImageRelease.Text.Utf8
/-!
Bytes as text in the charset that someone names.

What bytes make no character is read as the replacement character. Some names are known but are
those of no charset that could be read so, and units whose order nothing tells are not read either.
-/

namespace ImageRelease.Text

inductive Charset
  | utf8
  /-- With a byte order mark that may stand in front. -/
  | markedUtf8
  | utf7
  /-- Units of two bytes; without an order a mark in front must tell it. -/
  | utf16 (order : Option Units.Order)
  /-- Units of four bytes, likewise. -/
  | utf32 (order : Option Units.Order)
  | page (p : CodePage)
  | japanese (c : Japanese)
  | chinese (c : Chinese)
  | korean (c : Korean)
  | switched (c : Switched)
  | tildes
  | escaped
  | rawEscaped
  /-- With numbers for characters, as in the labels of hosts. -/
  | punycode
  /-- A name for what has no characters at all. -/
  | undefined
  /-- A charset that passes over nothing. -/
  | strict
  /-- Bytes for other bytes. -/
  | packing
  /-- Letters for other letters. -/
  | rotation

namespace Charset

inductive Fault
  /-- Units of so many bits without a mark in front. -/
  | noMark (bits : Nat)
  | undefined
  | strict
  | packing
  | rotation
  /-- An escape without an end. -/
  | overlong
  /-- A name in pieces of which only some have a number; whether that is the later one. -/
  | unordered (hasNumber : Bool)
  /-- A byte that is not ASCII, with its position. -/
  | notAscii (byte position : Nat)
  deriving DecidableEq, Repr

def Fault.message : Fault → String
  | noMark bits => "UTF-" ++ toString bits ++ " stream does not start with BOM"
  | undefined => "undefined encoding"
  | strict => "Unsupported error handling replace"
  | packing => ""
  | rotation => "descriptor 'translate' for 'str' objects doesn't apply to a 'bytes' object"
  | overlong => "pending buffer overflow"
  | unordered hasNumber =>
    "'<' not supported between instances of " ++
      (if hasNumber then "'int' and 'NoneType'" else "'NoneType' and 'int'")
  | notAscii byte position =>
    "'ascii' codec can't decode byte 0x" ++ .ofList (hex 2 byte) ++ " in position " ++
      toString position ++ ": ordinal not in range(128)"

/-! ### Names -/

/-- The first pages, which have their names from before there were others. -/
def firstPages : List CodePage :=
  [ { name := "ascii"
      others :=
        ["646", "ansi_x3.4_1968", "ansi_x3.4_1986", "ansi_x3_4_1968", "cp367", "csascii",
          "ibm367", "iso646_us", "iso_646.irv_1991", "iso_ir_6", "us", "us_ascii"]
      chars := CodePage.ascii },
    { name := "latin_1"
      others :=
        ["8859", "cp819", "csisolatin1", "ibm819", "iso8859", "iso8859_1", "iso_8859_1",
          "iso_8859_1_1987", "iso_ir_100", "l1", "latin", "latin1"]
      chars := (List.range 0x100).map Char.ofNat },
    { name := "charmap"
      chars := (List.range 0x100).map Char.ofNat }]

def pages : List CodePage :=
  firstPages ++ CodePage.iso ++ CodePage.windows ++ CodePage.dos ++ CodePage.mainframe ++
    CodePage.macintosh ++ CodePage.regional

/-- The charsets that are no pages, each with its name and others that it goes by. -/
def wide : List (Charset × String × List String) :=
  [(utf8, "utf_8", ["cp65001", "u8", "utf", "utf8", "utf8_ucs2", "utf8_ucs4"]),
    (markedUtf8, "utf_8_sig", []),
    (utf7, "utf_7", ["u7", "unicode_1_1_utf_7", "utf7"]),
    (utf16 none, "utf_16", ["u16", "utf16"]),
    (utf16 (some .little), "utf_16_le", ["unicodelittleunmarked", "utf_16le"]),
    (utf16 (some .big), "utf_16_be", ["unicodebigunmarked", "utf_16be"]),
    (utf32 none, "utf_32", ["u32", "utf32"]),
    (utf32 (some .little), "utf_32_le", ["utf_32le"]),
    (utf32 (some .big), "utf_32_be", ["utf_32be"]),
    (japanese .shifted, "shift_jis", ["csshiftjis", "s_jis", "shiftjis", "sjis", "x_mac_japanese"]),
    (japanese .page932, "cp932", ["932", "ms932", "ms_kanji", "mskanji"]),
    (japanese .extended, "euc_jp", ["eucjp", "u_jis", "ujis"]),
    (japanese (.shifted0213 .first), "shift_jisx0213",
      ["s_jisx0213", "shiftjisx0213", "sjisx0213"]),
    (japanese (.shifted0213 .second), "shift_jis_2004",
      ["s_jis_2004", "shiftjis2004", "sjis_2004"]),
    (japanese (.extended0213 .first), "euc_jisx0213", ["eucjisx0213"]),
    (japanese (.extended0213 .second), "euc_jis_2004", ["euc_jis2004", "eucjis2004", "jisx0213"]),
    (chinese .gb2312, "gb2312",
      ["chinese", "csiso58gb231280", "euc_cn", "euccn", "eucgb2312_cn", "gb2312_1980",
       "gb2312_80", "iso_ir_58", "x_mac_simp_chinese"]),
    (chinese .gbk, "gbk", ["936", "cp936", "ms936"]),
    (chinese .gb18030, "gb18030", ["gb18030_2000"]),
    (chinese .big5, "big5", ["big5_tw", "csbig5", "x_mac_trad_chinese"]),
    (chinese .page950, "cp950", ["950", "ms950"]),
    (chinese .hongKong, "big5hkscs", ["big5_hkscs", "hkscs"]),
    (korean .extended, "euc_kr",
      ["euckr", "korean", "ks_c_5601", "ks_c_5601_1987", "ks_x_1001", "ksc5601", "ksx1001",
       "x_mac_korean"]),
    (korean .page949, "cp949", ["949", "ms949", "uhc"]),
    (korean .johab, "johab", ["cp1361", "ms1361"]),
    (switched .japanese, "iso2022_jp", ["csiso2022jp", "iso2022jp", "iso_2022_jp"]),
    (switched .japanese1, "iso2022_jp_1", ["iso2022jp_1", "iso_2022_jp_1"]),
    (switched .japanese2, "iso2022_jp_2", ["iso2022jp_2", "iso_2022_jp_2"]),
    (switched .japaneseExtended, "iso2022_jp_ext", ["iso2022jp_ext", "iso_2022_jp_ext"]),
    (switched (.japanese0213 .first), "iso2022_jp_3", ["iso2022jp_3", "iso_2022_jp_3"]),
    (switched (.japanese0213 .second), "iso2022_jp_2004", ["iso2022jp_2004", "iso_2022_jp_2004"]),
    (switched .korean, "iso2022_kr", ["csiso2022kr", "iso2022kr", "iso_2022_kr"]),
    (tildes, "hz", ["hz_gb", "hz_gb_2312", "hzgb"]),
    (escaped, "unicode_escape", []),
    (rawEscaped, "raw_unicode_escape", []),
    (punycode, "punycode", []),
    (undefined, "undefined", []),
    (strict, "idna", []),
    (packing, "base64_codec", ["base64", "base_64"]),
    (packing, "bz2_codec", ["bz2"]),
    (packing, "hex_codec", ["hex"]),
    (packing, "quopri_codec", ["quopri", "quoted_printable", "quotedprintable"]),
    (packing, "uu_codec", ["uu"]),
    (packing, "zlib_codec", ["zip", "zlib"]),
    (rotation, "rot_13", ["rot13"])]

def all : List (Charset × String × List String) :=
  wide ++ pages.map fun p => (page p, p.name, p.others)

def isNameChar (c : Char) : Bool :=
  c.isAlphanum || c == '.'

/-- A name with an underscore in the place of whatever stands between its letters and digits. -/
def plainNameAfter (gap : Bool) : List Char → List Char
  | [] => []
  | c :: rest =>
    if isNameChar c then
      (if gap then ['_', c.toLower] else [c.toLower]) ++ plainNameAfter false rest
    else plainNameAfter true rest

def plainName (name : List Char) : List Char :=
  plainNameAfter false (name.dropWhile (!isNameChar ·))

/-- The charset that goes by a name. In the other names points may stand for underscores. -/
def ofName? (name : List Char) : Option Charset :=
  let plain := plainName name
  let name := String.ofList plain
  let undotted := String.ofList (plain.map fun c => if c = '.' then '_' else c)
  (all.find? fun (_, own, others) =>
    own == name || others.contains name || others.contains undotted).map (·.1)

/-! ### Reading -/

/-- The text with the replacement for each surrogate that stands alone. -/
def withoutAlone (l : List Char) : List Char :=
  l.map fun c => if Surrogate.isAlone c then replacement else c

/-- The replacement for what is left over at the end, if anything is. -/
def forRest (isRest : Bool) : List Char :=
  if isRest then [replacement] else []

def decode16 (order : Units.Order) (bytes : List UInt8) : List Char :=
  let (units, isRest) := Units.twos order bytes
  let isOpen := (units.getLast?.map Surrogate.isHigh).getD false
  withoutAlone (Units.pairUp units) ++ forRest (isRest && !isOpen)

def decode32 (order : Units.Order) (bytes : List UInt8) : List Char :=
  let (units, isRest) := Units.fours order bytes
  withoutAlone (units.map fun n => (Units.point? n).getD replacement) ++ forRest isRest

/-- Units in the order of the mark in front. Bytes that are less than a unit need none. -/
def decodeMarked (bits : Nat) (mark : Units.Order → List UInt8)
    (decode : Units.Order → List UInt8 → List Char) (bytes : List UInt8) :
    Except Fault (List Char) :=
  if bytes.length < bits / 8 then .ok (forRest (bytes ≠ []))
  else
    match [Units.Order.little, Units.Order.big].find? fun o => (mark o).isPrefixOf bytes with
    | some order => .ok (decode order (bytes.drop (bits / 8)))
    | none => .error (.noMark bits)

def mark16 : Units.Order → List UInt8
  | .little => [0xFF, 0xFE]
  | .big => [0xFE, 0xFF]

def mark32 : Units.Order → List UInt8
  | .little => [0xFF, 0xFE, 0x00, 0x00]
  | .big => [0x00, 0x00, 0xFE, 0xFF]

def mark8 : List UInt8 := [0xEF, 0xBB, 0xBF]

/-- Bytes read piece by piece. -/
def inPieces {σ : Type} (next : σ → UInt8 → List UInt8 → σ × Piece) (start : σ)
    (bytes : List UInt8) : Except Fault (List Char) :=
  match Piece.decode next start bytes with
  | some l => .ok l
  | none => .error .overlong

/-- Likewise by a rule that keeps nothing. -/
def simply (next : UInt8 → List UInt8 → Piece) (bytes : List UInt8) : Except Fault (List Char) :=
  inPieces (fun () a rest => ((), next a rest)) () bytes

/-- ASCII characters before the last hyphen and numbers behind it, which must be ASCII. -/
def decodePunycode (bytes : List UInt8) : Except Fault (List Char) :=
  let l := bytes.map Escaped.latin
  let (basic, numbers) := (cutLast '-' l).getD ([], l)
  let first := (numbers.takeWhile (·.toNat < 0x80)).length
  match numbers[first]? with
  | some c => .error (.notAscii c.toNat first)
  | none =>
    .ok (Host.Punycode.decodeFar (basic.map fun c => if c.toNat < 0x80 then c else replacement)
      numbers)

def decode (bytes : List UInt8) : Charset → Except Fault (List Char)
  | utf8 => .ok (Utf8.decodeLossy bytes)
  | markedUtf8 =>
    if mark8.isPrefixOf bytes then .ok (Utf8.decodeLossy (bytes.drop 3))
    else if bytes.isPrefixOf mark8 then .ok []
    else .ok (Utf8.decodeLossy bytes)
  | utf7 => .ok (Utf7.decode bytes)
  | utf16 (some order) => .ok (decode16 order bytes)
  | utf16 none => decodeMarked 16 mark16 decode16 bytes
  | utf32 (some order) => .ok (decode32 order bytes)
  | utf32 none => decodeMarked 32 mark32 decode32 bytes
  | page p => .ok (bytes.map p.charOf)
  | japanese c => simply c.next bytes
  | chinese c => simply c.next bytes
  | korean c => simply c.next bytes
  | switched c => inPieces c.next {} bytes
  | tildes => inPieces Switched.nextTilde false bytes
  | escaped => simply Escaped.next bytes
  | rawEscaped => simply Escaped.nextRaw bytes
  | undefined => .error .undefined
  | strict => .error .strict
  | packing => .error .packing
  | rotation => .error .rotation
  | punycode => decodePunycode bytes

end Charset

end ImageRelease.Text
