import JsonExtract.Yaml.Scalar
import JsonExtract.Json.Basic

/-!
# Decoding nodes

A decoder takes the value that it expects from a node.  When it cannot, its complaint names
the route to the node and the place of the node in the text.  Aliases are followed, but only
so often, and collections may be nested 128 deep.
-/

namespace JsonExtract.Yaml

inductive Segment where
  | item (position : Nat)
  | entry (name : String)
  /-- The value of a key that has no text of its own. -/
  | nameless
deriving DecidableEq, Repr

/-- The steps from the root to a node, the last one first. -/
abbrev Route := List Segment

namespace Route

/-- The text of a route, the root being a point. -/
def text : Route → String
  | [] => "."
  | .item position :: outer => text outer ++ "[" ++ toString position ++ "]"
  | .entry name :: outer => inner outer ++ name
  | .nameless :: outer => inner outer ++ "?"
where
  inner : Route → String
    | [] => ""
    | outer => text outer ++ "."

end Route

inductive Complaint where
  /-- A complaint that is not yet tied to a node. -/
  | loose (text : String)
  | placed (text : String) (route : String) (mark : Mark)
  | tooDeep (mark : Mark)
  | tooManyAliases
deriving Repr

/-- The place in words, unless it is the start of the text. -/
def placeText (mark : Mark) : String :=
  if mark.line = 0 && mark.column = 0 then ""
  else " at line " ++ toString (mark.line + 1) ++ " column " ++ toString (mark.column + 1)

namespace Complaint

def place (complaint : Complaint) (route : Route) (mark : Mark) : Complaint :=
  match complaint with
  | .loose text => .placed text (Route.text route) mark
  | complaint => complaint

def message : Complaint → String
  | .loose text => text
  | .placed text route mark =>
    (if route = "." then "" else route ++ ": ") ++ text ++ placeText mark
  | .tooDeep mark => "recursion limit exceeded" ++ placeText mark
  | .tooManyAliases => "repetition limit exceeded"

end Complaint

/-- Decoding within a document, with the number of aliases that have been followed. -/
abbrev Decode := ReaderT Document (StateT Nat (Except Complaint))

namespace Decode

def complain {α : Type} (text : String) : Decode α :=
  throw (.loose text)

/-- Ties the loose complaints of a decoder to a node. -/
def placing {α : Type} (route : Route) (mark : Mark) (decode : Decode α) : Decode α :=
  tryCatch decode fun complaint => throw (complaint.place route mark)

def aliasLimit (document : Document) : Nat :=
  100 * document.root.elim 1 Node.weight

/-- The node itself, or the node that an alias points to. -/
def follow (node : Node) : Decode Node := do
  match node with
  | .alias _ number =>
    let followed := (← get) + 1
    set followed
    let document ← read
    if aliasLimit document < followed then throw .tooManyAliases
    else return (document.anchor? number).getD node
  | node => return node

def mismatch {α : Type} (expected : String) (node : Node) : Decode α :=
  let complaint (description : String) : Decode α :=
    complain ("invalid type: " ++ description ++ ", expected " ++ expected)
  match node with
  | .scalar _ tag value style =>
    match Value.ofScalar tag value style with
    | .ok value => complaint value.description
    | .error text => complain text
  | .mapping _ _ _ => complaint "map"
  | _ => complaint "sequence"

/-- Decodes the node or the target of an alias, and ties complaints to it. -/
def onNode {α : Type} (route : Route) (node : Node) (decode : Node → Decode α) : Decode α := do
  let node ← follow node
  placing route node.mark (decode node)

def text (expected : String) (route : Route) (node : Node) : Decode String :=
  onNode route node fun node =>
    match node with
    | .scalar _ _ value _ => return value
    | node => mismatch expected node

/-- Whether nothing is written where a collection could stand. -/
def isAbsent : Node → Bool
  | .scalar _ _ value style => value.isEmpty && style = .plain
  | _ => false

def deeper {α : Type} (mark : Mark) (depth : Nat) (decode : Nat → Decode α) : Decode α :=
  match depth with
  | 0 => throw (.tooDeep mark)
  | depth + 1 => decode depth

def valueRoute (route : Route) (key : Node) : Route :=
  match key with
  | .scalar _ _ name _ => .entry name :: route
  | _ => .nameless :: route

def eachItem {α : Type} (route : Route) (items : List Node) (decode : Route → Node → Decode α) :
    Decode (List α) :=
  items.zipIdx.mapM fun (item, position) => decode (.item position :: route) item

def sequence {α : Type} (route : Route) (node : Node) (depth : Nat)
    (decode : Nat → Route → Node → Decode α) : Decode (List α) :=
  onNode route node fun node =>
    match node with
    | .sequence mark _ items => deeper mark depth fun depth => eachItem route items (decode depth)
    | node => if isAbsent node then return [] else mismatch "a sequence" node

/-- A mapping, its entries being decoded together. -/
def mapping {α : Type} (expected : String) (route : Route) (node : Node) (depth : Nat)
    (decode : Nat → List (Node × Node) → Decode α) : Decode α :=
  onNode route node fun node =>
    match node with
    | .mapping mark _ entries => deeper mark depth fun depth => decode depth entries
    | node => if isAbsent node then decode depth [] else mismatch expected node

/-- A mapping from texts to texts, the last value of a repeated key counting. -/
def textMap (route : Route) (node : Node) (depth : Nat) : Decode (KeyedMap String) :=
  mapping "a map" route node depth fun _ entries => do
    let pairs ← entries.mapM fun (key, value) => do
      let name ← text "a string" route key
      return (name, ← text "a string" (valueRoute route key) value)
    return .ofList pairs

/-- Whether a scalar may hold a value of the tagged kind. -/
def mayHold (kind : String) (tag : Option Tag) (style : ScalarStyle) : Bool :=
  style = .plain || (style = .literal && tag = some (.core kind))

def bool (route : Route) (node : Node) : Decode Bool :=
  onNode route node fun node =>
    match node with
    | .scalar _ tag value style =>
      match if mayHold "bool" tag style then Value.bool? value else none with
      | some b => return b
      | none => mismatch "a boolean" node
    | node => mismatch "a boolean" node

def natural (route : Route) (node : Node) : Decode Nat :=
  onNode route node fun node =>
    match node with
    | .scalar _ tag value style =>
      match if mayHold "int" tag style then Value.unsigned? value else none with
      | some n => return n
      | none => mismatch "u64" node
    | node => mismatch "u64" node

/-- Nothing, where nothing or null is written, and otherwise a value. -/
def optional {α : Type} (node : Node) (decode : Node → Decode α) : Decode (Option α) := do
  let node ← follow node
  match node with
  | .scalar _ tag value .plain =>
    if tag = some (.core "null") then
      match Value.ofScalar tag value .plain with
      | .ok _ => return none
      | .error complaint => complain complaint
    else if tag.isNone && (value.isEmpty || Value.isNullWord value) then return none
    else return some (← decode node)
  | node => return some (← decode node)

end Decode

end JsonExtract.Yaml
