import JsonExtract.Selector.Basic
import JsonExtract.Text.Quoted

/-!
# Descriptions of selectors

A description shows the parts of a selector on one line, with its default as a tree of
named values.
-/

namespace JsonExtract

namespace Json

mutual

def description : Json → String
  | .null => "Null"
  | .bool value => "Bool(" ++ toString value ++ ")"
  | .number n => "Number(" ++ n.text ++ ")"
  | .string s => "String(" ++ Text.Quoted.quote s ++ ")"
  | .array items => "Array [" ++ ", ".intercalate (itemDescriptions items) ++ "]"
  | .object members =>
    "Object \x7b" ++ ", ".intercalate (memberDescriptions members) ++ "\x7d"

def itemDescriptions : List Json → List String
  | [] => []
  | item :: rest => description item :: itemDescriptions rest

def memberDescriptions : List (String × Json) → List String
  | [] => []
  | (name, value) :: rest =>
    (Text.Quoted.quote name ++ ": " ++ description value) :: memberDescriptions rest

end

end Json

def Selector.description (selector : Selector) : String :=
  let default :=
    match selector.default with
    | some value => "Some(" ++ value.description ++ ")"
    | none => "None"
  "Selector \x7b key: " ++ Text.Quoted.quote selector.key ++
    ", path: " ++ Text.Quoted.quote selector.path ++
    ", default: " ++ default ++
    ", transform: " ++ toString selector.transform.isSome ++ " \x7d"

end JsonExtract
