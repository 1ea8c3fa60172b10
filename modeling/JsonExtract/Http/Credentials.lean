import JsonExtract.Text.Utf8
import JsonExtract.Url.Basic

/-!
# Credentials

The user name and the password of an address are not sent as part of it, but in a field of
their own, where every three octets are written as four characters of an alphabet of 64.
-/

namespace JsonExtract.Http.Credentials

def alphabet : List Char :=
  "ABCDEFGHIJKLMNOPQRSTUVWXYZabcdefghijklmnopqrstuvwxyz0123456789+/".toList

def letter (value : Nat) : Char :=
  (alphabet[value % 64]?).getD '='

/-- Octets in letters of the alphabet, with signs at the end that fill the last four. -/
def encode : List UInt8 → List Char
  | a :: b :: c :: rest =>
    let value := 65536 * a.toNat + 256 * b.toNat + c.toNat
    letter (value / 262144) :: letter (value / 4096) :: letter (value / 64) ::
      letter value :: encode rest
  | [a, b] =>
    let value := 65536 * a.toNat + 256 * b.toNat
    [letter (value / 262144), letter (value / 4096), letter (value / 64), '=']
  | [a] =>
    let value := 65536 * a.toNat
    [letter (value / 262144), letter (value / 4096), '=', '=']
  | [] => []

def plain? (text : String) : Option (List Char) :=
  (Text.Utf8.decode (Url.Percent.decode text.toList)).toOption

def ofAuthority? (authority : Url.Authority) : Option String := do
  let username ← plain? authority.username
  let password := if authority.password = "" then none else plain? authority.password
  if username.isEmpty && password.isNone then none
  else
    let octets := Text.Utf8.encode (username ++ ':' :: password.getD [])
    some ("Basic " ++ String.ofList (encode octets))

end JsonExtract.Http.Credentials
