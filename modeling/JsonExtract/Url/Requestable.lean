import JsonExtract.Url.Basic

/-!
# Addresses of requests

A request can be made out to most addresses with an authority.  The authority has characters of
its own only, at most one colon outside user names and brackets, and a percent sign in front of
an at sign only.  An address with neither an authority nor a slash can be taken for an
authority, and so requests can be made out to it too.
-/

namespace JsonExtract.Url

def inAuthority (c : Char) : Bool :=
  c.isAlphanum || "!$&'()*+,-.:;=@[]_~".toList.contains c

structure AuthorityScan where
  /-- The colons that may stand in front of a port. -/
  colons : Nat
  opened : Bool
  closed : Bool
  percent : Bool
  /-- Whether the last character was an at sign. -/
  isAfterSign : Bool

namespace AuthorityScan

def start : AuthorityScan := ⟨0, false, false, false, false⟩

def colonLimit : Nat := 8

def next? (scan : AuthorityScan) (c : Char) : Option AuthorityScan :=
  let after := { scan with isAfterSign := false }
  if c = '%' then some { after with percent := true }
  else if !inAuthority c then none
  else if c = ':' then
    if colonLimit ≤ scan.colons then none else some { after with colons := scan.colons + 1 }
  else if c = '[' then
    if scan.percent ∨ scan.opened then none else some { after with opened := true }
  else if c = ']' then
    if scan.closed ∨ !scan.opened then none
    else some { after with closed := true, colons := 0, percent := false }
  else if c = '@' then some { scan with colons := 0, percent := false, isAfterSign := true }
  else some after

def isComplete (scan : AuthorityScan) : Bool :=
  scan.opened == scan.closed && scan.colons ≤ 1 && !scan.isAfterSign && !scan.percent

end AuthorityScan

/-- Whether a text can be taken for an authority. -/
def isAuthorityText (text : List Char) : Bool :=
  !text.isEmpty && (text.foldlM AuthorityScan.next? .start).any AuthorityScan.isComplete

def schemeLimit : Nat := 64

def lengthLimit : Nat := 65534

/-- Whether a request can be made out to an address. -/
def isRequestable (url : Url) : Bool :=
  url.text.length ≤ lengthLimit &&
    match url.authority with
    | some authority =>
      url.scheme.length ≤ schemeLimit && isAuthorityText (authority.text.toList.drop 2)
    | none => isAuthorityText url.text.toList

/-- The address that a request is made out to: it has a path and no fragment. -/
def asRequested (url : Url) : Url :=
  let path := match url.authority, url.path with
    | some _, .rooted [] => .rooted [""]
    | _, path => path
  { url with path, fragment := none }

end JsonExtract.Url
