import JsonExtract.Url.Domain
import JsonExtract.Url.Fault
import JsonExtract.Url.Ipv4
import JsonExtract.Url.Ipv6

/-!
# Hosts

The host of an address is a name or an address of either kind.  Schemes of the web use domain
names; other schemes take the name as it is.
-/

namespace JsonExtract.Url

inductive Host where
  /-- A name in its plain form, which may be empty where the scheme allows. -/
  | named (name : String)
  | ipv4 (address : Nat)
  | ipv6 (groups : List Nat)
deriving DecidableEq, Repr

namespace Host

def text : Host → String
  | .named name => name
  | .ipv4 address => Ipv4.text address
  | .ipv6 groups => Ipv6.text groups

def bracketed (text : List Char) : Except Fault Host :=
  let inner := text.drop 1
  if inner.getLast? = some ']' then
    match Ipv6.ofText? inner.dropLast with
    | some groups => .ok (.ipv6 groups)
    | none => .error .invalidIpv6
  else .error .invalidIpv6

/-- The host of an address whose scheme uses domain names. -/
def ofText (text : List Char) : Except Fault Host :=
  if text.head? = some '[' then bracketed text
  else
    match Domain.ofOctets? (Percent.decode text) with
    | none => .error .invalidDomain
    | some [] => .error .emptyHost
    | some name =>
      if Ipv4.looksNumeric name then
        match Ipv4.ofHost? name with
        | some address => .ok (.ipv4 address)
        | none => .error .invalidIpv4
      else .ok (.named (String.ofList name))

def isSeparator (c : Char) : Bool :=
  "\x00\t\n\r #/:<>?@[\\]^|".toList.contains c

/-- The host of an address whose scheme uses names of its own. -/
def ofOtherText (text : List Char) : Except Fault Host :=
  if text.head? = some '[' then bracketed text
  else if text.any isSeparator then .error .invalidHostCharacter
  else .ok (.named (String.ofList (Percent.encode Percent.isForeign text)))

end Host

end JsonExtract.Url
