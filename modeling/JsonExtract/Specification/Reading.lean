import JsonExtract.Specification.Basic
import JsonExtract.Yaml.Decoding

/-!
# Reading specifications

A specification is a YAML mapping of named fields, each at most once, of which the address
and the selectors must be there.  A selector is a path or a mapping of its fields.
-/

namespace JsonExtract

namespace Yaml.Decode

/-- A document of any kind.  A mapping keeps the last value of a repeated name. -/
def jsonWith (inner : Option (Route → Node → Decode Json)) (route : Route) (node : Node) :
    Decode Json :=
  let expected := "any valid JSON value"
  let collection (tag : Option Tag) (mark : Mark)
      (decode : (Route → Node → Decode Json) → Decode Json) : Decode Json :=
    if tag.any Tag.isVariant then complain ("invalid type: enum, expected " ++ expected)
    else
      match inner with
      | none => throw (.tooDeep mark)
      | some inner => decode inner
  onNode route node fun node =>
    match node with
    | .sequence mark tag items =>
      collection tag mark fun inner => return .array (← eachItem route items inner)
    | .mapping mark tag entries =>
      collection tag mark fun inner => do
        let members ← entries.zipIdx.mapM fun ((key, value), position) => do
          let kind := if position = 0 then "a string key" else "a string"
          let name ← text kind route key
          return (name, ← inner (valueRoute route key) value)
        return .object (Keyed.collect members)
    | .scalar _ tag value style =>
      if tag.any Tag.isVariant then complain ("invalid type: enum, expected " ++ expected)
      else
        match Value.ofScalar tag value style with
        | .error complaint => complain complaint
        | .ok .null => return .null
        | .ok (.bool b) => return .bool b
        | .ok (.text s) => return .string s
        | .ok (.float x) => return ((Number.ofFloat? x).map Json.number).getD .null
        | .ok (.integer z) =>
          match Number.ofInt? z with
          | some n => return .number n
          | none => complain "JSON number out of range"
        | .ok (.wide _) => complain "JSON number out of range"
    | node => mismatch expected node

def json : Nat → Route → Node → Decode Json
  | 0 => jsonWith none
  | depth + 1 => jsonWith (some (json depth))

def selectorFields (route : Route) (depth : Nat) : Selector.FieldReader Decode Node Node where
  name := text "a string" route
  text key := text "a string" (valueRoute route key)
  json key := json depth (valueRoute route key)
  refuse fault := complain fault.message

/-- A selector: a path, or a mapping of its fields. -/
def selector (depth : Nat) (route : Route) (node : Node) : Decode Selector :=
  let expected := "a path string or an object \x7bkey?, path, default?, transform?\x7d"
  let variantOr (tag : Option Tag) (decode : Decode Selector) : Decode Selector :=
    if tag.any Tag.isVariant then complain ("invalid type: enum, expected " ++ expected)
    else decode
  onNode route node fun node =>
    match node with
    | .mapping mark tag entries =>
      variantOr tag (deeper mark depth fun depth => (selectorFields route depth).selector entries)
    | .sequence mark tag _ =>
      variantOr tag (deeper mark depth fun _ => mismatch expected node)
    | .scalar _ tag value style =>
      variantOr tag
        (match Value.ofScalar tag value style with
        | .ok (.text path) => return .ofPath path
        | _ => mismatch expected node)
    | node => mismatch expected node

def selectors (route : Route) (depth : Nat) (node : Node) : Decode (List Selector) :=
  sequence route node depth selector

end Yaml.Decode

namespace Specification

inductive Field where
  | url
  | headers
  | timeout
  | coerces
  | selectors
deriving DecidableEq, Repr

namespace Field

def name : Field → String
  | .url => "url"
  | .headers => "headers"
  | .timeout => "timeout_ms"
  | .coerces => "parse_numbers"
  | .selectors => "selectors"

def all : List Field := [.url, .headers, .timeout, .coerces, .selectors]

def ofName? (name : String) : Option Field :=
  all.find? (·.name = name)

end Field

structure Draft where
  url : Option String
  headers : Option (KeyedMap String)
  timeout : Option (Option Nat)
  coerces : Option Bool
  selectors : Option (List Selector)

namespace Draft

def empty : Draft := ⟨none, none, none, none, none⟩

def has (draft : Draft) : Field → Bool
  | .url => draft.url.isSome
  | .headers => draft.headers.isSome
  | .timeout => draft.timeout.isSome
  | .coerces => draft.coerces.isSome
  | .selectors => draft.selectors.isSome

end Draft

open Yaml (Decode Node Route)

def readField (key : Node) : Decode Field :=
  Decode.onNode [] key fun key =>
    match key with
    | .scalar _ _ name _ =>
      match Field.ofName? name with
      | some field => return field
      | none =>
        Decode.complain ("unknown field `" ++ name ++ "`, expected one of " ++
          Selector.quotedNames (Field.all.map Field.name))
    | key => Decode.mismatch "field identifier" key

def addField (depth : Nat) (draft : Draft) (entry : Node × Node) : Decode Draft := do
  let field ← readField entry.1
  let route := Decode.valueRoute [] entry.1
  let value := entry.2
  if draft.has field then Decode.complain ("duplicate field `" ++ field.name ++ "`")
  else
    match field with
    | .url => return { draft with url := some (← Decode.text "a string" route value) }
    | .headers => return { draft with headers := some (← Decode.textMap route value depth) }
    | .timeout =>
      return { draft with timeout := some (← Decode.optional value (Decode.natural route)) }
    | .coerces => return { draft with coerces := some (← Decode.bool route value) }
    | .selectors =>
      return { draft with selectors := some (← Decode.selectors route depth value) }

def decode (depth : Nat) (root : Node) : Decode Specification :=
  Decode.mapping "struct PickSpec" [] root depth fun depth entries => do
    let draft ← entries.foldlM (addField depth) Draft.empty
    match draft.url, draft.selectors with
    | none, _ => Decode.complain "missing field `url`"
    | some _, none => Decode.complain "missing field `selectors`"
    | some url, some selectors =>
      return ⟨url, draft.headers.getD .empty, draft.timeout.join, draft.coerces.getD false,
        selectors⟩

/-- The number of collections that may be open at once. -/
def nestingLimit : Nat := 128

/-- What a decoder makes of the only document of a text, an empty text being nothing. -/
def ofYaml {α : Type} (decode : Nat → Node → Decode α) (text : String) : Except Problem α :=
  match Yaml.Document.ofText text with
  | .error fault =>
    .error (.unreadableSpec (fault.problem ++ Yaml.placeText fault.mark))
  | .ok document =>
    let root := document.root.getD (.absent document.stop)
    match (decode nestingLimit root).run document |>.run 0 with
    | .error complaint => .error (.invalidSpec complaint.message)
    | .ok (value, _) => .ok value

/-- The specification that a text holds, its references not being replaced. -/
def ofText (text : String) : Except Problem Specification :=
  ofYaml decode text

def selectorsOfText (text : String) : Except Problem (List Selector) :=
  ofYaml (Decode.selectors []) text

/-- The specification that a text holds, with the values of variables in place. -/
def load (lookup : Variables.Lookup) (text : String) : Except Problem Specification := do
  let specification ← ofText text
  specification.expand lookup

end Specification

end JsonExtract
