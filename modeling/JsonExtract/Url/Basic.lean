import JsonExtract.Url.Host

/-!
# Addresses

An address has a scheme and, after a colon, an authority, a path, a query and a fragment, of
which only the path is always there.  The parts are kept in the form in which they are
written, with percent encoding where it is needed.
-/

namespace JsonExtract

namespace Url

structure Authority where
  username : String
  password : String
  host : Host
  port : Option Nat
deriving DecidableEq, Repr

inductive Path where
  /-- A path that does not start at a root. -/
  | rootless (text : String)
  | rooted (segments : List String)
deriving DecidableEq, Repr

namespace Authority

/-- The credentials, with the sign behind them, if there are any. -/
def credentialsText (authority : Authority) : String :=
  if authority.username = "" ∧ authority.password = "" then ""
  else if authority.password = "" then authority.username ++ "@"
  else authority.username ++ ":" ++ authority.password ++ "@"

def portText (authority : Authority) : String :=
  match authority.port with
  | some port => ":" ++ toString port
  | none => ""

def text (authority : Authority) : String :=
  "//" ++ authority.credentialsText ++ authority.host.text ++ authority.portText

end Authority

def Path.text : Path → String
  | .rootless text => text
  | .rooted segments => String.join (segments.map ("/" ++ ·))

end Url

structure Url where
  scheme : String
  authority : Option Url.Authority
  path : Url.Path
  query : Option String
  fragment : Option String
deriving DecidableEq, Repr

namespace Url

def target (url : Url) : String :=
  url.path.text ++ (url.query.map ("?" ++ ·)).getD ""

def text (url : Url) : String :=
  url.scheme ++ ":" ++ (url.authority.map Authority.text).getD "" ++ url.target ++
    (url.fragment.map ("#" ++ ·)).getD ""

/-- The schemes with domain names and with a root in every path, and their usual ports. -/
def specialSchemes : List (String × Option Nat) :=
  [("http", some 80), ("https", some 443), ("ws", some 80), ("wss", some 443),
    ("ftp", some 21), ("file", none)]

def isSpecial (scheme : String) : Bool :=
  (specialSchemes.lookup scheme).isSome

/-- The port that is meant where an address names none. -/
def usualPort? (scheme : String) : Option Nat :=
  (specialSchemes.lookup scheme).join

def isWeb (url : Url) : Bool :=
  url.scheme == "http" || url.scheme == "https"

def withoutCredentials (url : Url) : Url :=
  { url with authority := url.authority.map fun authority =>
      { authority with username := "", password := "" } }

end Url

end JsonExtract
