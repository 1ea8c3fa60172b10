import JsonExtract.Json.Basic
import JsonExtract.Json.Numeral

/-!
# Reading documents

A reader takes a value off the front of a text and returns it with the rest.  Containers
may be nested 127 deep.  An object that names a member twice keeps the place of the first
and the value of the last.
-/

namespace JsonExtract.Json

namespace Reader

def isBlank (c : Char) : Bool :=
  c = ' ' || c = '\n' || c = '\t' || c = '\r'

def skipBlanks (text : List Char) : List Char :=
  text.dropWhile isBlank

def hexValue? (c : Char) : Option Nat :=
  if c.isDigit then some (c.toNat - '0'.toNat)
  else if 'a' ≤ c && c ≤ 'f' then some (c.toNat - 'a'.toNat + 10)
  else if 'A' ≤ c && c ≤ 'F' then some (c.toNat - 'A'.toNat + 10)
  else none

def codeUnit (text : List Char) : Except Fault (Split Nat) :=
  let left := Text.byteLength text
  if left < 4 then .error ⟨.unfinishedString, 0⟩
  else
    match text with
    | a :: b :: c :: d :: rest =>
      match hexValue? a, hexValue? b, hexValue? c, hexValue? d with
      | some a, some b, some c, some d => .ok (((a * 16 + b) * 16 + c) * 16 + d, rest)
      | _, _, _, _ => .error ⟨.malformedEscape, left - 4⟩
    | _ => .error ⟨.malformedEscape, left - 4⟩

/-- The second half of a surrogate pair, after the first half. -/
def pairedUnit (first : Nat) (text : List Char) : Except Fault (Split Char) :=
  match text with
  | [] => .error (.before .unfinishedString [])
  | '\\' :: [] => .error (.before .unfinishedString [])
  | '\\' :: 'u' :: rest => do
    let (second, rest) ← codeUnit rest
    if 0xDC00 ≤ second && second ≤ 0xDFFF then
      .ok (Char.ofNat (0x10000 + (first - 0xD800) * 0x400 + (second - 0xDC00)), rest)
    else .error (.before .loneSurrogate rest)
  | '\\' :: rest => .error (.within .unfinishedSurrogatePair rest)
  | rest => .error (.within .unfinishedSurrogatePair rest)

def unicodeEscape (text : List Char) : Except Fault (Split Char) := do
  let (unit, rest) ← codeUnit text
  if 0xDC00 ≤ unit && unit ≤ 0xDFFF then .error (.before .loneSurrogate rest)
  else if 0xD800 ≤ unit && unit ≤ 0xDBFF then pairedUnit unit rest
  else .ok (Char.ofNat unit, rest)

def escape : List Char → Except Fault (Split Char)
  | [] => .error (.before .unfinishedString [])
  | '"' :: rest => .ok ('"', rest)
  | '\\' :: rest => .ok ('\\', rest)
  | '/' :: rest => .ok ('/', rest)
  | 'b' :: rest => .ok ('\x08', rest)
  | 'f' :: rest => .ok ('\x0c', rest)
  | 'n' :: rest => .ok ('\n', rest)
  | 'r' :: rest => .ok ('\r', rest)
  | 't' :: rest => .ok ('\t', rest)
  | 'u' :: rest => unicodeEscape rest
  | rest => .error (.within .malformedEscape rest)

/-- The characters up to the closing quote.  The fuel bounds the number of characters. -/
def characters : Nat → List Char → Except Fault (Split (List Char))
  | 0, text => .error (.before .unfinishedString text)
  | _ + 1, [] => .error (.before .unfinishedString [])
  | _ + 1, '"' :: rest => .ok ([], rest)
  | fuel + 1, '\\' :: rest => do
    let (c, rest) ← escape rest
    let (more, rest) ← characters fuel rest
    .ok (c :: more, rest)
  | fuel + 1, c :: rest =>
    if c.toNat < 0x20 then .error (.before .controlCharacter rest)
    else do
      let (more, rest) ← characters fuel rest
      .ok (c :: more, rest)

def readString (text : List Char) : Except Fault (Split String) := do
  let (chars, rest) ← characters (text.length + 1) text
  .ok (String.ofList chars, rest)

def letters : List Char → List Char → Except Fault (Split Unit)
  | [], text => .ok ((), text)
  | _ :: _, [] => .error (.before .unfinishedValue [])
  | expected :: more, c :: rest =>
    if c = expected then letters more rest else .error (.within .misspelledWord (c :: rest))

def word (expected : String) (value : Json) (text : List Char) :
    Except Fault (Split Json) := do
  let ((), rest) ← letters expected.toList text
  .ok (value, rest)

/-- The elements of an array from the first one on, and its closing bracket.  The fuel
bounds the number of elements. -/
def elements (item : List Char → Except Fault (Split Json)) :
    Nat → List Char → Except Fault (Split (List Json))
  | 0, text => .error (.before .unfinishedArray text)
  | fuel + 1, text => do
    let (value, rest) ← item text
    match skipBlanks rest with
    | [] => .error (.before .unfinishedArray [])
    | ']' :: rest => .ok ([value], rest)
    | ',' :: rest =>
      match skipBlanks rest with
      | [] => .error (.before .unfinishedValue [])
      | ']' :: rest => .error (.within .trailingComma (']' :: rest))
      | rest => do
        let (more, rest) ← elements item fuel rest
        .ok (value :: more, rest)
    | rest => .error (.within .missingArraySeparator rest)

def readArray (item : List Char → Except Fault (Split Json)) (text : List Char) :
    Except Fault (Split Json) :=
  match skipBlanks text with
  | [] => .error (.before .unfinishedArray [])
  | ']' :: rest => .ok (.array [], rest)
  | rest => do
    let (items, rest) ← elements item (rest.length + 1) rest
    .ok (.array items, rest)

def member (item : List Char → Except Fault (Split Json)) (text : List Char) :
    Except Fault (Split (String × Json)) := do
  let (name, rest) ← readString text
  match skipBlanks rest with
  | [] => .error (.before .unfinishedObject [])
  | ':' :: rest => do
    let (value, rest) ← item (skipBlanks rest)
    .ok ((name, value), rest)
  | rest => .error (.within .missingColon rest)

def members (item : List Char → Except Fault (Split Json)) :
    Nat → List Char → Except Fault (Split (List (String × Json)))
  | 0, text => .error (.before .unfinishedObject text)
  | fuel + 1, text =>
    match text with
    | '"' :: text => do
      let (entry, rest) ← member item text
      match skipBlanks rest with
      | [] => .error (.before .unfinishedObject [])
      | '\x7d' :: rest => .ok ([entry], rest)
      | ',' :: rest =>
        match skipBlanks rest with
        | [] => .error (.before .unfinishedValue [])
        | '\x7d' :: rest => .error (.within .trailingComma ('\x7d' :: rest))
        | rest => do
          let (more, rest) ← members item fuel rest
          .ok (entry :: more, rest)
      | rest => .error (.within .missingObjectSeparator rest)
    | text => .error (.within .unquotedKey text)

def readObject (item : List Char → Except Fault (Split Json)) (text : List Char) :
    Except Fault (Split Json) :=
  match skipBlanks text with
  | [] => .error (.before .unfinishedObject [])
  | '\x7d' :: rest => .ok (.object [], rest)
  | rest => do
    let (entries, rest) ← members item (rest.length + 1) rest
    .ok (.object (Keyed.collect entries), rest)

/-- A value that starts here, its elements and members being read by `item`. -/
def readWith (item : Option (List Char → Except Fault (Split Json))) (text : List Char) :
    Except Fault (Split Json) :=
  match text with
  | [] => .error (.before .unfinishedValue [])
  | 'n' :: rest => word "ull" .null rest
  | 't' :: rest => word "rue" (.bool true) rest
  | 'f' :: rest => word "alse" (.bool false) rest
  | '"' :: rest => do
    let (s, rest) ← readString rest
    .ok (.string s, rest)
  | '-' :: rest => do
    let (n, rest) ← Numeral.read true rest
    .ok (.number n, rest)
  | '[' :: rest =>
    match item with
    | some item => readArray item rest
    | none => .error (.within .tooDeep text)
  | '\x7b' :: rest =>
    match item with
    | some item => readObject item rest
    | none => .error (.within .tooDeep text)
  | c :: _ =>
    if c.isDigit then do
      let (n, rest) ← Numeral.read false text
      .ok (.number n, rest)
    else .error (.within .missingValue text)

/-- A value with at most this many containers inside each other. -/
def readValue : Nat → List Char → Except Fault (Split Json)
  | 0, text => readWith none (skipBlanks text)
  | depth + 1, text => readWith (some (readValue depth)) (skipBlanks text)

end Reader

def nestingLimit : Nat := 127

def parse (text : List Char) : Except Fault Json := do
  let (value, rest) ← Reader.readValue nestingLimit text
  match Reader.skipBlanks rest with
  | [] => .ok value
  | rest => .error (.within .trailingCharacters rest)

/-- The document that a text holds, or the message that says why it holds none. -/
def ofText (text : String) : Except String Json :=
  (parse text.toList).mapError fun fault => fault.message text.toList

end JsonExtract.Json
