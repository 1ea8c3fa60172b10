import JsonExtract.Yaml.BlockScalar
import JsonExtract.Yaml.Tag

/-!
# Tags, anchors and directives

A tag is a handle with a suffix.  A suffix is made of the characters of an address, and of
percent escapes for octets.  Escapes come in groups that look like the octets of one character,
but the group need not spell any.
-/

namespace JsonExtract.Yaml

/-- The characters of a tag's suffix; those of flow collections only between angle
brackets. -/
def isTagChar (verbatim : Bool) (c : Char) : Bool :=
  isWord c || ";/?:@&=+$.%!~*'()".toList.contains c || (verbatim && ",[]".toList.contains c)

def escapedOctet? (cursor : Cursor) : Option Nat :=
  match cursor.rest with
  | '%' :: a :: b :: _ => hexNumberOf a b
  | _ => none
where
  hexNumberOf (a b : Char) : Option Nat := do
    let high ← hexDigit? a
    let low ← hexDigit? b
    pure (16 * high + low)
  hexDigit? (c : Char) : Option Nat :=
    if c.isDigit then some (c.toNat - '0'.toNat)
    else if 'a' ≤ c && c ≤ 'f' then some (c.toNat - 'a'.toNat + 10)
    else if 'A' ≤ c && c ≤ 'F' then some (c.toNat - 'A'.toNat + 10)
    else none

def readTrailing : Nat → Cursor → Except Malformed (List UInt8 × Cursor)
  | 0, cursor => .ok ([], cursor)
  | more + 1, cursor =>
    match escapedOctet? cursor with
    | none => cursor.fail "did not find URI escaped octet"
    | some octet =>
      if octet / 64 = 2 then do
        let (octets, cursor) ← readTrailing more (cursor.skip 3)
        .ok (UInt8.ofNat octet :: octets, cursor)
      else cursor.fail "found an incorrect trailing UTF-8 octet"

def trailingCount? (octet : Nat) : Option Nat :=
  if octet < 0x80 then some 0
  else if octet / 32 = 6 then some 1
  else if octet / 16 = 14 then some 2
  else if octet / 8 = 30 then some 3
  else none

def readPercent (cursor : Cursor) : Except Malformed (List UInt8 × Cursor) :=
  match escapedOctet? cursor with
  | none => cursor.fail "did not find URI escaped octet"
  | some octet =>
    match trailingCount? octet with
    | none => cursor.fail "found an incorrect leading UTF-8 octet"
    | some count => do
      let (octets, cursor) ← readTrailing count (cursor.skip 3)
      .ok (UInt8.ofNat octet :: octets, cursor)

def readTagOctets (verbatim : Bool) : Nat → Cursor → Except Malformed (List UInt8 × Cursor)
  | 0, cursor => .ok ([], cursor)
  | fuel + 1, cursor =>
    match cursor.peek with
    | none => .ok ([], cursor)
    | some c =>
      if !isTagChar verbatim c then .ok ([], cursor)
      else do
        let (octets, cursor) ←
          if c = '%' then readPercent cursor else .ok ([UInt8.ofNat c.toNat], cursor.skip 1)
        let (rest, cursor) ← readTagOctets verbatim fuel cursor
        .ok (octets ++ rest, cursor)

/-- The suffix of a tag that starts with characters read before, which may be all of it. -/
def readTagSuffix (verbatim : Bool) (head : List Char) (cursor : Cursor) :
    Except Malformed (List UInt8 × Cursor) := do
  let (octets, next) ← readTagOctets verbatim cursor.rest.length cursor
  if head.isEmpty && octets.isEmpty then cursor.fail "did not find expected tag URI"
  else .ok (Text.Utf8.encode (head.drop 1) ++ octets, next)

/-- The handle at the cursor: an exclamation mark, a name, and perhaps a second mark. -/
def readTagHandle (directive : Bool) (cursor : Cursor) :
    Except Malformed (List Char × Cursor) :=
  if !cursor.sees '!' then cursor.fail "did not find expected '!'"
  else
    let name := (cursor.rest.drop 1).takeWhile isWord
    let next := cursor.skip (1 + name.length)
    if next.sees '!' then .ok ('!' :: (name ++ ['!']), next.skip 1)
    else if directive && !name.isEmpty then next.fail "did not find expected '!'"
    else .ok ('!' :: name, next)

/-- The tag at the cursor, as its handle and its suffix.  A mark with nothing behind it, or with
a zero octet, is the whole tag. -/
def readTag (inFlow : Bool) (start : Cursor) : Except Malformed (TokenKind × Cursor) := do
  let (handle, suffix, cursor) ←
    if start.peekAt 1 = some '<' then do
      let (suffix, cursor) ← readTagSuffix true [] (start.skip 2)
      if cursor.sees '>' then .ok (([] : List Char), suffix, cursor.skip 1)
      else cursor.fail "did not find the expected '>'"
    else do
      let (handle, cursor) ← readTagHandle false start
      if 1 < handle.length && handle.getLast? = some '!' then
        let (suffix, cursor) ← readTagSuffix false [] cursor
        .ok (handle, suffix, cursor)
      else
        let (suffix, cursor) ← readTagSuffix false handle cursor
        if (Tag.upToZero suffix).isEmpty then .ok ([], [0x21], cursor)
        else .ok (['!'], suffix, cursor)
  if (inFlow && cursor.sees ',') || blankOrEnd cursor.peek then
    .ok (.tag (String.ofList handle) suffix, cursor)
  else cursor.fail "did not find expected whitespace or line break"

def readAnchorName (cursor : Cursor) : Except Malformed (String × Cursor) :=
  let name := cursor.rest.takeWhile isWord
  let next := cursor.skip name.length
  if name.isEmpty || !(blankOrEnd next.peek || (next.peek.any "?:,]\x7d%@`".toList.contains)) then
    next.fail "did not find expected alphabetic or numeric character"
  else .ok (String.ofList name, next)

def readVersionNumber (cursor : Cursor) : Except Malformed (Nat × Cursor) :=
  let digits := cursor.rest.takeWhile Char.isDigit
  if digits.isEmpty then cursor.fail "did not find expected version number"
  else if 9 < digits.length then cursor.fail "found extremely long version number"
  else
    .ok (digits.foldl (fun value c => 10 * value + (c.toNat - '0'.toNat)) 0,
      cursor.skip digits.length)

def readDirective (start : Cursor) : Except Malformed (TokenKind × Mark × Cursor) := do
  let name := (start.rest.drop 1).takeWhile isWord
  let cursor := start.skip (1 + name.length)
  if name.isEmpty then cursor.fail "could not find expected directive name"
  else if !blankOrEnd cursor.peek then cursor.fail "found unexpected non-alphabetical character"
  else
    let cursor := cursor.skipWhile isBlank
    let (kind, cursor) ←
      if name = "YAML".toList then do
        let (major, cursor) ← readVersionNumber cursor
        if !cursor.sees '.' then cursor.fail "did not find expected digit or '.' character"
        else
          let (minor, cursor) ← readVersionNumber (cursor.skip 1)
          .ok (TokenKind.versionDirective major minor, cursor)
      else if name = "TAG".toList then do
        let (handle, cursor) ← readTagHandle true cursor
        if !(cursor.peek.any isBlank) then cursor.fail "did not find expected whitespace"
        else
          let (stem, cursor) ← readTagSuffix true [] (cursor.skipWhile isBlank)
          if !blankOrEnd cursor.peek then
            cursor.fail "did not find expected whitespace or line break"
          else .ok (.tagDirective (String.ofList handle) stem, cursor)
      else cursor.fail "found unknown directive name"
    let stop := cursor.mark
    let cursor ← finishLine cursor
    .ok (kind, stop, cursor)

end JsonExtract.Yaml
