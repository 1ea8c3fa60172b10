import JsonExtract.Text.Gb18030
import JsonExtract.Text.Japanese
import JsonExtract.Text.SingleOctet
import JsonExtract.Text.Utf8

/-!
# Character encodings

Octets become a text by way of an encoding.  An encoding is asked for by one of its names, but
a mark at the front of the octets comes before any name.  Octets that stand for no character
leave the replacement mark in the text, so reading never fails.
-/

namespace JsonExtract.Text

inductive Charset where
  | utf8
  /-- Units of two octets, the greater octet first or last. -/
  | utf16 (greaterFirst : Bool)
  | single (table : String)
  | gb18030
  | big5
  | eucJp
  | iso2022Jp
  | shiftJis
  | eucKr
  /-- Octets above 127 are private characters. -/
  | userDefined
  /-- Not read at all, since the same octets could be taken for a plain text. -/
  | refused
deriving DecidableEq, Repr

namespace Charset

def names : List (List String × Charset) := [
  (["unicode-1-1-utf-8", "unicode11utf8", "unicode20utf8", "utf-8", "utf8", "x-unicode20utf8"],
    .utf8),
  (["csunicode", "iso-10646-ucs-2", "ucs-2", "unicode", "unicodefeff", "utf-16", "utf-16le"],
    .utf16 false),
  (["unicodefffe", "utf-16be"], .utf16 true),
  (["chinese", "csgb2312", "csiso58gb231280", "gb18030", "gb2312", "gb_2312", "gb_2312-80", "gbk",
    "iso-ir-58", "x-gbk"], .gb18030),
  (["big5", "big5-hkscs", "cn-big5", "csbig5", "x-x-big5"], .big5),
  (["cseucpkdfmtjapanese", "euc-jp", "x-euc-jp"], .eucJp),
  (["csiso2022jp", "iso-2022-jp"], .iso2022Jp),
  (["csshiftjis", "ms932", "ms_kanji", "shift-jis", "shift_jis", "sjis", "windows-31j", "x-sjis"],
    .shiftJis),
  (["cseuckr", "csksc56011987", "euc-kr", "iso-ir-149", "korean", "ks_c_5601-1987",
    "ks_c_5601-1989", "ksc5601", "ksc_5601", "windows-949"], .eucKr),
  (["x-user-defined"], .userDefined),
  (["csiso2022kr", "hz-gb-2312", "iso-2022-cn", "iso-2022-cn-ext", "iso-2022-kr", "replacement"],
    .refused)]

/-- Names count in small letters and without blanks around them. -/
def normalName (name : String) : String :=
  String.ofList ((trim name.toList).map Char.toLower)
where
  isBlank (c : Char) : Bool := "\t\n\x0c\r ".toList.contains c
  trim (text : List Char) : List Char :=
    ((text.dropWhile isBlank).reverse.dropWhile isBlank).reverse

def ofName? (name : String) : Option Charset :=
  let name := normalName name
  ((names.find? (·.1.contains name)).map (·.2)) <|>
    (SingleOctet.tables.find? (·.1.contains name)).map fun entry => .single entry.2

/-- The encoding that a mark at the front tells, with the octets behind the mark. -/
def ofMark? : List UInt8 → Option (Charset × List UInt8)
  | 0xef :: 0xbb :: 0xbf :: rest => some (.utf8, rest)
  | 0xfe :: 0xff :: rest => some (.utf16 true, rest)
  | 0xff :: 0xfe :: rest => some (.utf16 false, rest)
  | _ => none

/-- The units that pairs of octets make, nothing standing for an octet left over. -/
def units (greaterFirst : Bool) : List UInt8 → List (Option Nat)
  | a :: b :: rest =>
    let (high, low) := if greaterFirst then (a, b) else (b, a)
    some (256 * high.toNat + low.toNat) :: units greaterFirst rest
  | [_] => [none]
  | [] => []

def isUpperHalf (unit : Nat) : Bool :=
  0xd800 ≤ unit && unit < 0xdc00

def isLowerHalf (unit : Nat) : Bool :=
  0xdc00 ≤ unit && unit < 0xe000

/-- The characters that units make, alone or in pairs.  An upper half and an octet left over
are one piece that is no character. -/
def ofUnits : List (Option Nat) → List Char
  | some high :: some low :: rest =>
    if isUpperHalf high && isLowerHalf low then
      Char.ofNat (0x10000 + 0x400 * (high - 0xd800) + (low - 0xdc00)) :: ofUnits rest
    else unitChar high :: ofUnits (some low :: rest)
  | [some high, none] => if isUpperHalf high then ['\ufffd'] else [unitChar high, '\ufffd']
  | some unit :: rest => unitChar unit :: ofUnits rest
  | none :: rest => '\ufffd' :: ofUnits rest
  | [] => []
where
  unitChar (unit : Nat) : Char :=
    if isUpperHalf unit || isLowerHalf unit then '\ufffd' else Char.ofNat unit

/-- The character of an octet, where the upper half of them is private. -/
def userDefinedChar (octet : UInt8) : Char :=
  Char.ofNat (if octet < 128 then octet.toNat else 0xf700 + octet.toNat)

def read (charset : Charset) (octets : List UInt8) : List Char :=
  match charset with
  | .utf8 => Utf8.decodeLossy octets
  | .utf16 greaterFirst => ofUnits (units greaterFirst octets)
  | .single table => octets.map (SingleOctet.charOf table.toList)
  | .gb18030 => Gb18030.read octets
  | .big5 => Paired.big5.read octets
  | .eucJp => ExtendedUnix.read octets
  | .iso2022Jp => Escaped.read .plain false octets
  | .shiftJis => Paired.shiftJis.read octets
  | .eucKr => Paired.korean.read octets
  | .userDefined => octets.map userDefinedChar
  | .refused => if octets.isEmpty then [] else ['\ufffd']

/-- The text of octets, in the encoding that their mark tells or else in the one given. -/
def decode (charset : Charset) (octets : List UInt8) : List Char :=
  match ofMark? octets with
  | some (marked, rest) => marked.read rest
  | none => charset.read octets

end Charset

end JsonExtract.Text
