/-!
# Percent encoding

A character that a part of an address cannot hold is written octet by octet, a percent sign
and two hexadecimal digits for each octet.  Each part has its own class of such characters.
-/

namespace JsonExtract.Url.Percent

def isForeign (c : Char) : Bool :=
  c.toNat < 0x20 || 0x7f ≤ c.toNat

def notInFragment (c : Char) : Bool :=
  isForeign c || " \"<>`".toList.contains c

def notInQuery (special : Bool) (c : Char) : Bool :=
  isForeign c || " \"#<>".toList.contains c || special && c == '\''

def notInPath (c : Char) : Bool :=
  notInFragment c || "#?\x7b\x7d".toList.contains c

def notInUserInfo (c : Char) : Bool :=
  notInPath c || "/:;=@[\\]^|".toList.contains c

def hexDigit (n : Nat) : Char :=
  if n < 10 then Char.ofNat ('0'.toNat + n) else Char.ofNat ('A'.toNat + (n - 10))

def encodeOctet (octet : UInt8) : List Char :=
  ['%', hexDigit (octet.toNat / 16), hexDigit (octet.toNat % 16)]

def encode (escaped : Char → Bool) (text : List Char) : List Char :=
  text.flatMap fun c =>
    if escaped c then (String.utf8EncodeChar c).flatMap encodeOctet else [c]

def hexValue? (c : Char) : Option Nat :=
  if c.isDigit then some (c.toNat - '0'.toNat)
  else if 'a' ≤ c && c ≤ 'f' then some (c.toNat - 'a'.toNat + 10)
  else if 'A' ≤ c && c ≤ 'F' then some (c.toNat - 'A'.toNat + 10)
  else none

/-- The octets of a text.  A percent sign without its two digits stands for itself. -/
def decode : List Char → List UInt8
  | [] => []
  | '%' :: high :: low :: rest =>
    match hexValue? high, hexValue? low with
    | some h, some l => UInt8.ofNat (16 * h + l) :: decode rest
    | _, _ => '%'.toNat.toUInt8 :: decode (high :: low :: rest)
  | c :: rest => String.utf8EncodeChar c ++ decode rest

end JsonExtract.Url.Percent
