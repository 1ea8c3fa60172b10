import JsonExtract.Yaml.Lexer

/-!
# Nodes of a YAML document

A document is a tree of scalars, sequences and mappings.  An alias points to a node by the
number of its anchor, so that a node may stand below itself.
-/

namespace JsonExtract.Yaml

inductive Node where
  | scalar (mark : Mark) (tag : Option Tag) (value : String) (style : ScalarStyle)
  | sequence (mark : Mark) (tag : Option Tag) (items : List Node)
  | mapping (mark : Mark) (tag : Option Tag) (entries : List (Node × Node))
  | alias (mark : Mark) (anchor : Nat)

namespace Node

instance : Inhabited Node := ⟨.alias .origin 0⟩

def mark : Node → Mark
  | .scalar mark _ _ _ => mark
  | .sequence mark _ _ => mark
  | .mapping mark _ _ => mark
  | .alias mark _ => mark

def absent (mark : Mark) : Node :=
  .scalar mark none "" .plain

mutual

/-- The number of starts and ends of nodes, a scalar and an alias counting once. -/
def weight : Node → Nat
  | .scalar _ _ _ _ => 1
  | .sequence _ _ items => 2 + weightOfItems items
  | .mapping _ _ entries => 2 + weightOfEntries entries
  | .alias _ _ => 1

def weightOfItems : List Node → Nat
  | [] => 0
  | item :: rest => weight item + weightOfItems rest

def weightOfEntries : List (Node × Node) → Nat
  | [] => 0
  | (key, value) :: rest => weight key + weight value + weightOfEntries rest

end

end Node

/-- A document, and the nodes that its aliases point to. -/
structure Document where
  /-- The root, unless the text holds no document at all. -/
  root : Option Node
  /-- Where the text ends. -/
  stop : Mark
  /-- The node of each anchor number. -/
  anchored : List (Nat × Node)

namespace Document

def anchor? (document : Document) (number : Nat) : Option Node :=
  document.anchored.lookup number

end Document

/-- The tokens that have not been read, and what the tokens before them have defined. -/
structure Composer where
  tokens : List Token
  /-- The meaning of each tag handle. -/
  handles : List (String × List UInt8)
  /-- The number of each anchor name.  A name that is defined again gets a new number. -/
  names : List (String × Nat)
  /-- The anchor numbers in the order in which their nodes start, the last first. -/
  starts : List Nat
  /-- The anchored nodes that have ended, by the place of their start. -/
  ended : List (Nat × Node)

abbrev Compose := StateT Composer (Except Malformed)

namespace Compose

def defaultHandles : List (String × List UInt8) :=
  [("!", [0x21]), ("!!", Tag.coreStem)]

def peek : Compose TokenKind := do
  return (← get).tokens.head?.elim .streamEnd Token.kind

def here : Compose Mark := do
  return (← get).tokens.head?.elim .origin Token.start

def after : Compose Mark := do
  return (← get).tokens.head?.elim .origin Token.stop

def skip : Compose Unit :=
  modify fun composer => { composer with tokens := composer.tokens.drop 1 }

def fail {α : Type} (problem : String) : Compose α := do
  throw ⟨problem, ← here⟩

/-- Registers an anchor for the node that starts, and gives the place of its start. -/
def anchor (name : Option String) : Compose (Option Nat) := do
  match name with
  | none => return none
  | some name =>
    let composer ← get
    let number := composer.names.length
    let others := composer.names.filter (·.1 ≠ name)
    set { composer with names := (name, number) :: others, starts := number :: composer.starts }
    return some composer.starts.length

def record (place : Option Nat) (node : Node) : Compose Unit :=
  match place with
  | none => return
  | some place => modify fun composer => { composer with ended := (place, node) :: composer.ended }

def aliasTo (name : String) : Compose Node := do
  let mark ← here
  match (← get).names.lookup name with
  | some number =>
    skip
    return .alias mark number
  | none => fail "unknown anchor"

def readAnchor : Compose (Option String) := do
  match ← peek with
  | .anchor name =>
    skip
    return some name
  | _ => return none

def readTag : Compose (Option Tag) := do
  match ← peek with
  | .tag handle suffix =>
    if handle.isEmpty then
      skip
      return some (.ofParts [] suffix)
    else
      match (← get).handles.lookup handle with
      | some stem =>
        skip
        return some (.ofParts stem suffix)
      | none => fail "found undefined tag handle"
  | _ => return none

/-- The anchor and the tag in front of a node, in either order. -/
def properties : Compose (Option String × Option Tag) := do
  match ← readAnchor with
  | some name => return (some name, ← readTag)
  | none =>
    match ← readTag with
    | some tag => return (← readAnchor, some tag)
    | none => return (none, none)

/-- An empty node in front of one of these tokens, and otherwise the node that is read. -/
def orAbsent (stops : List TokenKind) (mark : Mark) (read : Compose Node) : Compose Node := do
  if stops.contains (← peek) then return .absent mark else read

/-- The tokens before which the key or the value of an entry in a block is empty. -/
def blockStops : List TokenKind := [.key, .value, .blockEnd]

def anchoring (name : Option String) (read : Compose Node) : Compose Node := do
  let place ← anchor name
  let node ← read
  record place node
  return node

mutual

/-- The node at the next token.  In a block it may be a block collection, and as the value of
a mapping it may be a sequence at the column of the mapping. -/
def node : Nat → Bool → Bool → Compose Node
  | 0, _, _ => fail "did not find expected node content"
  | fuel + 1, inBlock, asValue => do
    match ← peek with
    | .alias name => aliasTo name
    | _ =>
      let mark ← here
      let (name, tag) ← properties
      match ← peek, inBlock, asValue with
      | .blockEntry, _, true =>
        anchoring name do return .sequence mark tag (← alignedItems fuel)
      | .scalar value style, _, _ =>
        anchoring name do
          skip
          return .scalar mark tag value style
      | .flowSequenceStart, _, _ =>
        anchoring name do
          skip
          return .sequence mark tag (← flowItems fuel true)
      | .flowMappingStart, _, _ =>
        anchoring name do
          skip
          return .mapping mark tag (← flowEntries fuel true)
      | .blockSequenceStart, true, _ =>
        anchoring name do
          skip
          return .sequence mark tag (← blockItems fuel)
      | .blockMappingStart, true, _ =>
        anchoring name do
          skip
          return .mapping mark tag (← blockEntries fuel)
      | _, _, _ =>
        if name.isSome || tag.isSome then
          anchoring name do return .scalar mark tag "" .plain
        else fail "did not find expected node content"

def blockItems : Nat → Compose (List Node)
  | 0 => fail "did not find expected '-' indicator"
  | fuel + 1 => do
    match ← peek with
    | .blockEntry =>
      let mark ← after
      skip
      let item ← orAbsent [.blockEntry, .blockEnd] mark (node fuel true false)
      return item :: (← blockItems fuel)
    | .blockEnd =>
      skip
      return []
    | _ => fail "did not find expected '-' indicator"

/-- The items of a block sequence that starts at the column of the mapping around it. -/
def alignedItems : Nat → Compose (List Node)
  | 0 => fail "did not find expected '-' indicator"
  | fuel + 1 => do
    match ← peek with
    | .blockEntry =>
      let mark ← after
      skip
      let item ← orAbsent (.blockEntry :: blockStops) mark (node fuel true false)
      return item :: (← alignedItems fuel)
    | _ => return []

def blockEntries : Nat → Compose (List (Node × Node))
  | 0 => fail "did not find expected key"
  | fuel + 1 => do
    match ← peek with
    | .key =>
      let mark ← after
      skip
      let key ← orAbsent blockStops mark (node fuel true true)
      let value ← blockValue fuel
      return (key, value) :: (← blockEntries fuel)
    | .blockEnd =>
      skip
      return []
    | _ => fail "did not find expected key"

def blockValue : Nat → Compose Node
  | 0 => fail "did not find expected key"
  | fuel + 1 => do
    match ← peek with
    | .value =>
      let mark ← after
      skip
      orAbsent blockStops mark (node fuel true true)
    | _ => return .absent (← here)

/-- The items of a flow sequence, and its end.  An item with a key is a mapping of its own. -/
def flowItems : Nat → Bool → Compose (List Node)
  | 0, _ => fail "did not find expected ',' or ']'"
  | fuel + 1, first => do
    let next ← peek
    if next = .flowSequenceEnd then
      skip
      return []
    else if !first && next ≠ .flowEntry then fail "did not find expected ',' or ']'"
    else
      if !first then skip
      match ← peek with
      | .flowSequenceEnd =>
        skip
        return []
      | .key =>
        let mark ← here
        skip
        let entry ← flowPair fuel
        return .mapping mark none [entry] :: (← flowItems fuel false)
      | _ =>
        let item ← node fuel false false
        return item :: (← flowItems fuel false)

/-- A single pair inside a flow sequence, after its key indicator.  A token that leaves the key
empty is passed over. -/
def flowPair : Nat → Compose (Node × Node)
  | 0 => fail "did not find expected ',' or ']'"
  | fuel + 1 => do
    let mark ← after
    let key ←
      if [.value, .flowEntry, .flowSequenceEnd].contains (← peek) then
        skip
        pure (Node.absent mark)
      else node fuel false false
    match ← peek with
    | .value =>
      skip
      let value ← orAbsent [.flowEntry, .flowSequenceEnd] (← here) (node fuel false false)
      return (key, value)
    | _ => return (key, .absent (← here))

def flowEntries : Nat → Bool → Compose (List (Node × Node))
  | 0, _ => fail "did not find expected ',' or '\x7d'"
  | fuel + 1, first => do
    let next ← peek
    if next = .flowMappingEnd then
      skip
      return []
    else if !first && next ≠ .flowEntry then fail "did not find expected ',' or '\x7d'"
    else
      if !first then skip
      match ← peek with
      | .flowMappingEnd =>
        skip
        return []
      | .key =>
        skip
        let key ← orAbsent [.value, .flowEntry, .flowMappingEnd] (← here) (node fuel false false)
        let value ← flowValue fuel
        return (key, value) :: (← flowEntries fuel false)
      | _ =>
        let key ← node fuel false false
        let value := Node.absent (← here)
        return (key, value) :: (← flowEntries fuel false)

def flowValue : Nat → Compose Node
  | 0 => fail "did not find expected ',' or '\x7d'"
  | fuel + 1 => do
    match ← peek with
    | .value =>
      skip
      orAbsent [.flowEntry, .flowMappingEnd] (← here) (node fuel false false)
    | _ => return .absent (← here)

end

/-- The directives in front of a document, as the meaning of its tag handles. -/
def directives :
    Nat → Bool → List (String × List UInt8) → Compose (List (String × List UInt8))
  | 0, _, _ => fail "did not find expected <document start>"
  | fuel + 1, versioned, handles => do
    match ← peek with
    | .versionDirective major minor =>
      if versioned then fail "found duplicate %YAML directive"
      else if major = 1 && (minor = 1 || minor = 2) then
        skip
        directives fuel true handles
      else fail "found incompatible YAML document"
    | .tagDirective handle stem =>
      if (handles.lookup handle).isSome then fail "found duplicate %TAG directive"
      else
        skip
        directives fuel versioned (handles ++ [(handle, stem)])
    | _ => return handles

/-- Whether a document that starts with three dashes holds nothing. -/
def endsDocument : TokenKind → Bool
  | .versionDirective _ _ => true
  | .tagDirective _ _ => true
  | .documentStart => true
  | .documentEnd => true
  | .streamEnd => true
  | _ => false

def explicitRoot (fuel : Nat) : Compose Node := do
  let handles ← directives fuel false []
  if (← peek) ≠ .documentStart then fail "did not find expected <document start>"
  else
    modify fun composer => { composer with handles := handles ++ defaultHandles }
    skip
    if endsDocument (← peek) then return .absent (← here) else node fuel true false

def root (fuel : Nat) : Compose (Option Node) := do
  match ← peek with
  | .streamEnd => return none
  | .versionDirective _ _ => return some (← explicitRoot fuel)
  | .tagDirective _ _ => return some (← explicitRoot fuel)
  | .documentStart => return some (← explicitRoot fuel)
  | _ => return some (← node fuel true false)

def finish : Compose Unit := do
  modify fun composer =>
    { composer with tokens := composer.tokens.dropWhile (·.kind = .documentEnd) }
  match ← peek with
  | .streamEnd => return
  | .documentStart =>
    fail "deserializing from YAML containing more than one document is not supported"
  | _ => fail "did not find expected <document start>"

end Compose

/-- The anchored nodes by number.  Of two nodes with one number the later start counts. -/
def Composer.anchored (composer : Composer) : List (Nat × Node) :=
  let places := composer.starts.zip (List.range composer.starts.length).reverse
  places.filterMap fun (number, place) => (composer.ended.lookup place).map (number, ·)

def Document.ofText (text : String) : Except Malformed Document := do
  let tokens ← tokens text
  let read : Compose (Option Node × Mark) := do
    let root ← Compose.root (4 * tokens.size + 4)
    Compose.finish
    return (root, ← Compose.here)
  let ((root, stop), composer) ← read.run ⟨tokens.toList, Compose.defaultHandles, [], [], []⟩
  return ⟨root, stop, composer.anchored⟩

end JsonExtract.Yaml
