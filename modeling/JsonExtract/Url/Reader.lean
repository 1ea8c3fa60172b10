import JsonExtract.Problem
import JsonExtract.Text.Unquoted
import JsonExtract.Url.Basic
import JsonExtract.Url.Segments

/-!
# Reading addresses

Addresses are read leniently: blanks around them, line breaks and tabs within them, missing or
turned slashes, and characters that have to be encoded do no harm.  The special schemes must
have a host, and their paths are freed of the segments that mean this place or the one above.
-/

namespace JsonExtract.Url

/-! ## Characters that do not count -/

def isPadding (c : Char) : Bool := c.toNat ≤ 0x20

def isLineBreak (c : Char) : Bool := c == '\t' || c == '\n' || c == '\r'

def clean (text : List Char) : List Char :=
  let started := text.dropWhile isPadding
  let trimmed := (started.reverse.dropWhile isPadding).reverse
  trimmed.filter (!isLineBreak ·)

/-! ## Scheme -/

def isSchemeChar (c : Char) : Bool :=
  c.isAlphanum || c == '+' || c == '-' || c == '.'

/-- The scheme in small letters, and what stands behind its colon. -/
def splitScheme? (text : List Char) : Option (String × List Char) :=
  match text.head?, text.dropWhile isSchemeChar with
  | some first, ':' :: rest =>
    if first.isAlpha then
      some (String.ofList ((text.takeWhile isSchemeChar).map Char.toLower), rest)
    else none
  | _, _ => none

/-! ## Authority -/

def splitBefore (p : Char → Bool) (text : List Char) : List Char × List Char :=
  (text.takeWhile (!p ·), text.dropWhile (!p ·))

/-- Splits a text at the last occurrence of a character, the character being left out. -/
def splitAtLast (separator : Char) (text : List Char) : Option (List Char × List Char) :=
  (Text.splitAtChar separator text.reverse).map fun (after, before) =>
    (before.reverse, after.reverse)

/-- Splits a text at the first colon outside square brackets. -/
def splitPort (bracketed : Bool) : List Char → List Char × Option (List Char)
  | [] => ([], none)
  | c :: rest =>
    if c = ':' ∧ bracketed = false then ([], some rest)
    else
      let inside := if c = '[' then true else if c = ']' then false else bracketed
      let (before, after) := splitPort inside rest
      (c :: before, after)

/-- The port, unless it is the usual one of the scheme or left empty. -/
def portOf (scheme : String) (digits : List Char) : Except Fault (Option Nat) :=
  if digits.isEmpty then .ok none
  else
    match Decimal.digits? digits with
    | some port =>
      if 65536 ≤ port then .error .invalidPort
      else if usualPort? scheme = some port then .ok none
      else .ok (some port)
    | none => .error .invalidPort

def credentials (text : List Char) : String × String :=
  let encoded (part : List Char) := String.ofList (Percent.encode Percent.notInUserInfo part)
  match Text.splitAtChar ':' text with
  | some (username, password) => (encoded username, encoded password)
  | none => (encoded text, "")

def hostOf (scheme : String) (text : List Char) : Except Fault Host :=
  if isSpecial scheme then
    if text.isEmpty then .error .emptyHost else Host.ofText text
  else Host.ofOtherText text

/-- The authority of a scheme other than that of files, and what is left of the text: a turned
slash ends a port.  `isLast` tells whether nothing else follows in the address. -/
def authorityOf (scheme : String) (text : List Char) (isLast : Bool) :
    Except Fault (Authority × List Char) := do
  let (userInfo, server) := (splitAtLast '@' text).getD ([], text)
  if server.isEmpty ∧ text = ['@'] ∧ !isLast then throw .emptyHost
  let (name, port) := splitPort false server
  let host ← hostOf scheme name
  if name.isEmpty ∧ port.isSome then throw .emptyHost
  let (digits, rest) := splitBefore (· == '\\') (port.getD [])
  let port ← portOf scheme digits
  let (username, password) := credentials userInfo
  if name.isEmpty ∧ (username ≠ "" ∨ password ≠ "") then throw .emptyHost
  return (⟨username, password, host, port⟩, rest)

/-- Whether the text is a letter and a colon or a bar, as the names of drives are. -/
def isDrive : List Char → Bool
  | [letter, mark] => letter.isAlpha && (mark == ':' || mark == '|')
  | _ => false

/-- The authority of a file, which has a host only if one is named that is not this one. -/
def fileAuthorityOf (text : List Char) : Except Fault Authority :=
  if text.isEmpty || isDrive text then .ok ⟨"", "", .named "", none⟩
  else
    match Host.ofText text with
    | .ok (.named "localhost") => .ok ⟨"", "", .named "", none⟩
    | .ok host => .ok ⟨"", "", host, none⟩
    | .error fault => .error fault

/-! ## Path -/

def isHere (segment : List Char) : Bool :=
  [".", "%2e"].contains (String.ofList (segment.map Char.toLower))

def isAbove (segment : List Char) : Bool :=
  ["..", ".%2e", "%2e.", "%2e%2e"].contains (String.ofList (segment.map Char.toLower))

def isSlash (special : Bool) (c : Char) : Bool :=
  c == '/' || special && c == '\\'

/-- What segments mean in all schemes.  Nothing is above a drive. -/
def meaning : Segments.Meaning (List Char) := ⟨isHere, isAbove, isDrive⟩

def splitAtSlashes (special : Bool) (text : List Char) : List (List Char) :=
  text.splitOnP (isSlash special)

def settledPath (segments : List (List Char)) : Path :=
  .rooted ((Segments.settle meaning segments).map fun segment =>
    String.ofList (Percent.encode Percent.notInPath segment))

def pathBehind (special : Bool) (text : List Char) : Path :=
  match text with
  | [] => .rooted (if special then [""] else [])
  | c :: rest =>
    settledPath (splitAtSlashes special (if isSlash special c then rest else c :: rest))

def startsAtDrive : Path → Bool
  | .rooted (first :: _) => isDrive first.toList
  | _ => false

/-! ## The whole -/

/-- The authority and the path behind the colon of a scheme.  `isLast` tells whether neither a
query nor a fragment follows. -/
def hierarchy (scheme : String) (text : List Char) (isLast : Bool) :
    Except Fault (Option Authority × Path) := do
  let special := isSpecial scheme
  let slashes := text.takeWhile (isSlash special)
  if scheme = "file" then
    if slashes.length < 2 then
      return (some ⟨"", "", .named "", none⟩, pathBehind true text)
    else
      let (name, path) := splitBefore (isSlash true) (text.drop 2)
      let authority ← fileAuthorityOf name
      let path := pathBehind true (if isDrive name then text.drop 2 else path)
      return (some (if startsAtDrive path then ⟨"", "", .named "", none⟩ else authority), path)
  else if special then
    let (name, path) := splitBefore (isSlash true) (text.drop slashes.length)
    let (authority, _) ← authorityOf scheme name (isLast && path.isEmpty)
    return (some authority, pathBehind true path)
  else if 2 ≤ slashes.length then
    let (name, path) := splitBefore (isSlash false) (text.drop 2)
    let (authority, rest) ← authorityOf scheme name (isLast && path.isEmpty)
    return (some authority, pathBehind false (rest ++ path))
  else if slashes.length = 1 then return (none, pathBehind false text)
  else
    return (none, .rootless (String.ofList (Percent.encode Percent.isForeign text)))

structure Parts where
  front : List Char
  query : Option (List Char)
  fragment : Option (List Char)

namespace Parts

def splitOff (sign : Char) (text : List Char) : List Char × Option (List Char) :=
  match Text.splitAtChar sign text with
  | some (before, after) => (before, some after)
  | none => (text, none)

def ofText (text : List Char) : Parts :=
  let (text, fragment) := splitOff '#' text
  let (front, query) := splitOff '?' text
  ⟨front, query, fragment⟩

def isBare (parts : Parts) : Bool :=
  parts.query.isNone && parts.fragment.isNone

def queryText (parts : Parts) (scheme : String) : Option String :=
  parts.query.map fun text =>
    String.ofList (Percent.encode (Percent.notInQuery (isSpecial scheme)) text)

def fragmentText (parts : Parts) : Option String :=
  parts.fragment.map fun text => String.ofList (Percent.encode Percent.notInFragment text)

def complete (parts : Parts) (scheme : String) (authority : Option Authority) (path : Path) :
    Url :=
  ⟨scheme, authority, path, parts.queryText scheme, parts.fragmentText⟩

end Parts

def ofScheme (scheme : String) (text : List Char) : Except Fault Url := do
  let parts := Parts.ofText text
  let (authority, path) ← hierarchy scheme parts.front parts.isBare
  return parts.complete scheme authority path

def ofText (text : String) : Except Fault Url :=
  match splitScheme? (clean text.toList) with
  | none => .error .relative
  | some (scheme, rest) => ofScheme scheme rest

def ofWebText (text : String) : Except Problem Url :=
  match ofText text with
  | .error fault => .error (.invalidUrl text fault.reason)
  | .ok url =>
    if url.isWeb then .ok url
    else .error (.invalidUrl text ("unsupported scheme '" ++ url.scheme ++ "'"))

end JsonExtract.Url
