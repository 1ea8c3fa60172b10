import JsonExtract.Http.Field
import JsonExtract.Text.Charset
import JsonExtract.Text.Unquoted

/-!
# Types of content

The type of a content is a word, a slash and a word, and parameters after a semicolon or a
blank.  A parameter has a name and, behind an equals sign, a word or a text in double quotes.
One mistake anywhere makes the whole type unreadable.
-/

namespace JsonExtract.Http.ContentType

def isWordChar (c : Char) : Bool :=
  Field.isTokenChar c && c ≠ '*'

def isWord (text : List Char) : Bool :=
  !text.isEmpty && text.all isWordChar

def isQuotable (c : Char) : Bool :=
  0x20 ≤ c.toNat && c ≠ '\x7f'

/-- What follows the blanks and the semicolon behind a text in quotes. -/
def afterQuoted? (text : List Char) : Option (List Char) :=
  match text.dropWhile (· == ' ') with
  | [] => some []
  | ';' :: rest => some rest
  | _ => none

/-- The value at the front, and the parameters after it.  A text in quotes has at least one
character, so a quote right behind the first one belongs to the text. -/
def value? : List Char → Option (List Char × List Char)
  | '"' :: first :: rest =>
    let value := first :: rest.takeWhile (· ≠ '"')
    match rest.dropWhile (· ≠ '"') with
    | _ :: after => if value.all isQuotable then (afterQuoted? after).map (value, ·) else none
    | [] => none
  | text =>
    let value := text.takeWhile (· ≠ ';')
    match text.dropWhile (· ≠ ';') with
    | _ :: after => if isWord value then some (value, after) else none
    | [] => if value.all isWordChar then some (value, []) else none

/-- The names and the values of parameters, of which there are at most `count`. -/
def parameters? : Nat → List Char → Option (List (List Char × List Char))
  | 0, _ => some []
  | count + 1, text => do
    match text.dropWhile (· == ' ') with
    | [] => return []
    | text =>
      let (name, text) ← Text.splitAtChar '=' text
      if !isWord name then none
      let (value, after) ← value? text
      return (name.map Char.toLower, value) :: (← parameters? count after)

def parametersOf? (text : List Char) : Option (List (List Char × List Char)) := do
  let (kind, text) ← Text.splitAtChar '/' text
  let ends (c : Char) : Bool := c == ';' || c == ' '
  let subkind := text.takeWhile (!ends ·)
  if isWord kind && isWord subkind then
    parameters? text.length ((text.dropWhile (!ends ·)).drop 1)
  else none

/-- Whether a character shows, a blank and a tab counting as well. -/
def isVisible (c : Char) : Bool :=
  c == '\t' || (0x20 ≤ c.toNat && c.toNat < 0x7f)

def charset? (text : String) : Option String := do
  if !text.toList.all isVisible then none
  let parameters ← parametersOf? text.toList
  return String.ofList (← parameters.lookup "charset".toList)

/-- The encoding of a content, which is UTF-8 unless its type tells a known other. -/
def encodingOf (fields : List Field) : Text.Charset :=
  (((Field.find? "content-type" fields).bind charset?).bind Text.Charset.ofName?).getD .utf8

end JsonExtract.Http.ContentType
