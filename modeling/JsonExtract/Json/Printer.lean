import JsonExtract.Json.Basic

/-!
# Written form of documents

The compact form has no space at all.  The indented form puts every element and every
member on a line of its own, two spaces deeper than its container, and writes empty
containers as `[]` and `{}`.  Strings escape the quote, the backslash and the control
characters below U+0020, and nothing else.
-/

namespace JsonExtract.Json

def hexDigit (n : Nat) : Char :=
  if n < 10 then Char.ofNat ('0'.toNat + n) else Char.ofNat ('a'.toNat + (n - 10))

def escapeChar (c : Char) : List Char :=
  if c = '"' then ['\\', '"']
  else if c = '\\' then ['\\', '\\']
  else if c = '\n' then ['\\', 'n']
  else if c = '\r' then ['\\', 'r']
  else if c = '\t' then ['\\', 't']
  else if c = '\x08' then ['\\', 'b']
  else if c = '\x0c' then ['\\', 'f']
  else if c.toNat < 0x20 then
    ['\\', 'u', '0', '0', hexDigit (c.toNat / 16), hexDigit (c.toNat % 16)]
  else [c]

def quote (s : String) : List Char :=
  '"' :: (s.toList.flatMap escapeChar ++ ['"'])

def literal (s : String) : List Char := s.toList

def joined (separator : List Char) : List (List Char) → List Char
  | [] => []
  | [piece] => piece
  | piece :: rest => piece ++ separator ++ joined separator rest

mutual

def compactChars : Json → List Char
  | .null => literal "null"
  | .bool true => literal "true"
  | .bool false => literal "false"
  | .number n => literal n.text
  | .string s => quote s
  | .array items => '[' :: (joined [','] (compactItems items) ++ [']'])
  | .object members => '{' :: (joined [','] (compactMembers members) ++ ['}'])

def compactItems : List Json → List (List Char)
  | [] => []
  | item :: rest => compactChars item :: compactItems rest

def compactMembers : List (String × Json) → List (List Char)
  | [] => []
  | (name, value) :: rest => (quote name ++ ':' :: compactChars value) :: compactMembers rest

end

/-- A line break followed by the indentation of this depth. -/
def freshLine (depth : Nat) : List Char :=
  '\n' :: List.replicate (2 * depth) ' '

def block (opening closing : Char) (depth : Nat) (pieces : List (List Char)) : List Char :=
  if pieces.isEmpty then [opening, closing]
  else
    opening :: (freshLine (depth + 1) ++ joined (',' :: freshLine (depth + 1)) pieces ++
      freshLine depth ++ [closing])

mutual

def indentedChars (depth : Nat) : Json → List Char
  | .null => literal "null"
  | .bool true => literal "true"
  | .bool false => literal "false"
  | .number n => literal n.text
  | .string s => quote s
  | .array items => block '[' ']' depth (indentedItems (depth + 1) items)
  | .object members => block '{' '}' depth (indentedMembers (depth + 1) members)

def indentedItems (depth : Nat) : List Json → List (List Char)
  | [] => []
  | item :: rest => indentedChars depth item :: indentedItems depth rest

def indentedMembers (depth : Nat) : List (String × Json) → List (List Char)
  | [] => []
  | (name, value) :: rest =>
    (quote name ++ ':' :: ' ' :: indentedChars depth value) :: indentedMembers depth rest

end

/-- The document on one line. -/
def compact (value : Json) : String :=
  String.ofList (compactChars value)

/-- The document with one element or member per line. -/
def indented (value : Json) : String :=
  String.ofList (indentedChars 0 value)

end JsonExtract.Json
