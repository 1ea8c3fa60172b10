import JsonExtract.Selector.Basic
import JsonExtract.Json.Reader
import JsonExtract.Text.Blank
import JsonExtract.Text.Unquoted

/-!
# Selectors as arguments

An argument is a path, or a key and a path with an equals sign between them, and in either
form a default may follow after two question marks.  The default is a JSON text.  The first
equals sign counts, so a key holds none.
-/

namespace JsonExtract.Selector

def keyAndPath (body : List Char) : List Char × List Char :=
  match Text.splitAtChar '=' body with
  | some (key, path) => (Text.trim key, Text.trim path)
  | none => (body, body)

/-- The selector with this key and path, neither being empty. -/
def ofBody? (body : List Char) (default : Option Json) : Option Selector :=
  let (key, path) := keyAndPath body
  if key.isEmpty || path.isEmpty then none
  else some ⟨String.ofList key, String.ofList path, default, none⟩

def ofTrimmed? (text : List Char) : Option Selector :=
  match Text.splitUnquoted ['?', '?'] .start text with
  | some (body, default) =>
    match Json.parse (Text.trim default) with
    | .ok value => ofBody? (Text.trim body) (some value)
    | .error _ => none
  | none => ofBody? text none

def ofArgument (argument : String) : Except Problem Selector :=
  let text := Text.trim argument.toList
  match ofTrimmed? text with
  | some selector => .ok selector
  | none => .error (.invalidSelector (String.ofList text))

end JsonExtract.Selector
