import JsonExtract.Yaml.QuotedScalar
import JsonExtract.Yaml.TagName

/-!
# From text to tokens

The lexer turns the layout of block collections into tokens of its own.  A scalar, an alias
or a flow collection may turn out to be the key of a mapping once a colon follows it, so the
lexer remembers where such a key would have started, at most one for each open flow
collection.
-/

namespace JsonExtract.Yaml

/-- Where the key of a mapping may have started. -/
structure PendingKey where
  /-- Whether nothing but a key can stand there. -/
  required : Bool
  /-- The number of tokens before the key. -/
  position : Nat
  mark : Mark

structure Lexer where
  cursor : Cursor
  tokens : Array Token
  /-- The column of the innermost open block collection, or −1. -/
  indent : Int
  /-- The columns of the block collections around it. -/
  outer : List Int
  /-- The pending key of each open flow collection, the innermost first, and of the block. -/
  pending : List (Option PendingKey)
  /-- Whether a key may start at the cursor. -/
  keyAllowed : Bool

namespace Lexer

abbrev Result := Except Malformed Lexer

def start (text : List Char) : Lexer :=
  ⟨.ofText text, #[], -1, [], [none], true⟩

def inFlow (lexer : Lexer) : Bool :=
  1 < lexer.pending.length

def mark (lexer : Lexer) : Mark :=
  lexer.cursor.mark

def emit (lexer : Lexer) (kind : TokenKind) (start stop : Mark) : Lexer :=
  { lexer with tokens := lexer.tokens.push ⟨kind, start, stop⟩ }

def insertToken (lexer : Lexer) (position : Nat) (kind : TokenKind) (mark : Mark) : Lexer :=
  { lexer with
    tokens := lexer.tokens.extract 0 position ++ #[⟨kind, mark, mark⟩] ++
      lexer.tokens.extract position lexer.tokens.size }

def indicator (lexer : Lexer) (kind : TokenKind) (length : Nat) : Lexer :=
  let next := lexer.cursor.skip length
  { lexer.emit kind lexer.mark next.mark with cursor := next }

def setPending (lexer : Lexer) (key : Option PendingKey) : Lexer :=
  { lexer with pending := key :: lexer.pending.drop 1 }

def dropKey (lexer : Lexer) : Result :=
  match lexer.pending with
  | some key :: _ =>
    if key.required then .error ⟨"could not find expected ':'", key.mark⟩
    else .ok (lexer.setPending none)
  | _ => .ok lexer

def saveKey (lexer : Lexer) : Result :=
  if lexer.keyAllowed then do
    let required := !lexer.inFlow && lexer.indent = lexer.mark.column
    let lexer ← lexer.dropKey
    .ok (lexer.setPending (some ⟨required, lexer.tokens.size, lexer.mark⟩))
  else .ok lexer

/-- Whether a key that started there can still be one: it fits on a line and has at most
1024 characters. -/
def keyStands (here : Mark) (key : PendingKey) : Bool :=
  key.mark.line = here.line && here.index ≤ key.mark.index + 1024

def dropStale (lexer : Lexer) : Result := do
  let pending ← lexer.pending.mapM fun key =>
    match key with
    | none => .ok none
    | some key =>
      if keyStands lexer.mark key then .ok (some key)
      else if key.required then .error ⟨"could not find expected ':'", key.mark⟩
      else .ok none
  .ok { lexer with pending := pending }

def closeBlocks (lexer : Lexer) (column : Int) : Lexer :=
  if lexer.inFlow then lexer
  else
    let columns := lexer.indent :: lexer.outer
    let closed := (columns.takeWhile (column < ·)).length
    let blockEnd : Token := ⟨.blockEnd, lexer.mark, lexer.mark⟩
    { lexer with
      tokens := lexer.tokens ++ (List.replicate closed blockEnd).toArray
      indent := (columns[closed]?).getD (-1)
      outer := columns.drop (closed + 1) }

/-- Opens a block collection at a column if none is open there.  Its token goes in front of
the tokens from a position on. -/
def openBlock (lexer : Lexer) (column position : Nat) (kind : TokenKind) (mark : Mark) : Lexer :=
  if lexer.inFlow || (column : Int) ≤ lexer.indent then lexer
  else
    { lexer.insertToken position kind mark with
      indent := column, outer := lexer.indent :: lexer.outer }

def skipOrderMark (cursor : Cursor) : Cursor :=
  if cursor.mark.column = 0 && cursor.sees '\ufeff' then cursor.skip 1 else cursor

/-- Passes over white space and comments up to the next token.  A line break in a block lets
a key start. -/
def skipToToken : Nat → Lexer → Lexer
  | 0, lexer => lexer
  | fuel + 1, lexer =>
    let tabs := lexer.inFlow || !lexer.keyAllowed
    let cursor := (skipOrderMark lexer.cursor).skipWhile fun c => c = ' ' || (tabs && c = '\t')
    let cursor := if cursor.sees '#' then cursor.skipWhile (!isBreak ·) else cursor
    if cursor.peek.any isBreak then
      skipToToken fuel
        { lexer with
          cursor := cursor.skipBreak, keyAllowed := lexer.keyAllowed || !lexer.inFlow }
    else { lexer with cursor := cursor }

def streamEnd (lexer : Lexer) : Result :=
  let mark := lexer.mark
  let mark := if mark.column = 0 then mark else ⟨mark.index, mark.line + 1, 0⟩
  let lexer := { lexer with cursor := ⟨[], mark⟩ }
  do
    let lexer ← (lexer.closeBlocks (-1)).dropKey
    .ok ({ lexer with keyAllowed := false }.emit .streamEnd mark mark)

def directive (lexer : Lexer) : Result := do
  let lexer ← (lexer.closeBlocks (-1)).dropKey
  let (kind, stop, cursor) ← readDirective lexer.cursor
  .ok ({ lexer with keyAllowed := false, cursor := cursor }.emit kind lexer.mark stop)

def documentMarker (lexer : Lexer) (kind : TokenKind) : Result := do
  let lexer ← (lexer.closeBlocks (-1)).dropKey
  .ok ({ lexer with keyAllowed := false }.indicator kind 3)

def flowStart (lexer : Lexer) (kind : TokenKind) : Result := do
  let lexer ← lexer.saveKey
  .ok ({ lexer with pending := none :: lexer.pending, keyAllowed := true }.indicator kind 1)

def flowEnd (lexer : Lexer) (kind : TokenKind) : Result := do
  let lexer ← lexer.dropKey
  let pending := if lexer.inFlow then lexer.pending.drop 1 else lexer.pending
  .ok ({ lexer with pending := pending, keyAllowed := false }.indicator kind 1)

def flowEntry (lexer : Lexer) : Result := do
  let lexer ← lexer.dropKey
  .ok ({ lexer with keyAllowed := true }.indicator .flowEntry 1)

/-- An indicator that opens a block collection here unless one is open. -/
def opening (lexer : Lexer) (kind : TokenKind) (problem : String) : Result :=
  if lexer.inFlow then .ok lexer
  else if !lexer.keyAllowed then lexer.cursor.fail problem
  else .ok (lexer.openBlock lexer.mark.column lexer.tokens.size kind lexer.mark)

def blockEntry (lexer : Lexer) : Result := do
  let lexer ← lexer.opening .blockSequenceStart
    "block sequence entries are not allowed in this context"
  let lexer ← lexer.dropKey
  .ok ({ lexer with keyAllowed := true }.indicator .blockEntry 1)

def explicitKey (lexer : Lexer) : Result := do
  let lexer ← lexer.opening .blockMappingStart "mapping keys are not allowed in this context"
  let lexer ← lexer.dropKey
  .ok ({ lexer with keyAllowed := !lexer.inFlow }.indicator .key 1)

/-- A colon: what stood at the pending key was a key. -/
def colon (lexer : Lexer) : Result :=
  match lexer.pending with
  | some key :: _ =>
    let lexer := lexer.insertToken key.position .key key.mark
    let lexer := lexer.openBlock key.mark.column key.position .blockMappingStart key.mark
    .ok ({ lexer.setPending none with keyAllowed := false }.indicator .value 1)
  | _ => do
    let lexer ← lexer.opening .blockMappingStart
      "mapping values are not allowed in this context"
    .ok ({ lexer with keyAllowed := !lexer.inFlow }.indicator .value 1)

def anchorOrAlias (lexer : Lexer) (kind : String → TokenKind) : Result := do
  let lexer ← lexer.saveKey
  let (name, cursor) ← readAnchorName (lexer.cursor.skip 1)
  .ok ({ lexer with keyAllowed := false, cursor := cursor }.emit (kind name) lexer.mark cursor.mark)

def tag (lexer : Lexer) : Result := do
  let lexer ← lexer.saveKey
  let (kind, cursor) ← readTag lexer.inFlow lexer.cursor
  .ok ({ lexer with keyAllowed := false, cursor := cursor }.emit kind lexer.mark cursor.mark)

def blockScalar (lexer : Lexer) (style : ScalarStyle) : Result := do
  let lexer ← lexer.dropKey
  let (value, stop, cursor) ← readBlock (style = .folded) lexer.indent lexer.cursor
  .ok ({ lexer with keyAllowed := true, cursor := cursor }.emit
    (.scalar value style) lexer.mark stop)

def quotedScalar (lexer : Lexer) (quote : Char) (style : ScalarStyle) : Result := do
  let lexer ← lexer.saveKey
  let (value, cursor) ← readQuoted quote lexer.cursor
  .ok ({ lexer with keyAllowed := false, cursor := cursor }.emit
    (.scalar value style) lexer.mark cursor.mark)

def plainScalar (lexer : Lexer) : Result := do
  let lexer ← lexer.saveKey
  let scan ← readPlain lexer.inFlow (lexer.indent + 1) lexer.cursor
  .ok ({ lexer with keyAllowed := scan.broken, cursor := scan.cursor }.emit
    (.scalar (String.ofList scan.done.reverse) .plain) lexer.mark scan.stop)

def isIndicator (c : Char) : Bool :=
  "-?:,[]\x7b\x7d#&*!|>'\"%@`".toList.contains c

def startsPlain (lexer : Lexer) (c : Char) : Bool :=
  let next := lexer.cursor.peekAt 1
  !(isBlank c || isBreak c || isIndicator c) ||
    (c = '-' && !(next.any isBlank)) ||
    (!lexer.inFlow && (c = '?' || c = ':') && !blankOrEnd next)

def token (lexer : Lexer) : Result := do
  let cursor := lexer.cursor
  let next := cursor.peekAt 1
  match cursor.peek with
  | none => lexer.streamEnd
  | some c =>
    if lexer.mark.column = 0 && c = '%' then lexer.directive
    else if cursor.seesDocumentMarker '-' then lexer.documentMarker .documentStart
    else if cursor.seesDocumentMarker '.' then lexer.documentMarker .documentEnd
    else if c = '[' then lexer.flowStart .flowSequenceStart
    else if c = '\x7b' then lexer.flowStart .flowMappingStart
    else if c = ']' then lexer.flowEnd .flowSequenceEnd
    else if c = '\x7d' then lexer.flowEnd .flowMappingEnd
    else if c = ',' then lexer.flowEntry
    else if c = '-' && blankOrEnd next then lexer.blockEntry
    else if c = '?' && (lexer.inFlow || blankOrEnd next) then lexer.explicitKey
    else if c = ':' && (lexer.inFlow || blankOrEnd next) then lexer.colon
    else if c = '*' then lexer.anchorOrAlias .alias
    else if c = '&' then lexer.anchorOrAlias .anchor
    else if c = '!' then lexer.tag
    else if c = '|' && !lexer.inFlow then lexer.blockScalar .literal
    else if c = '>' && !lexer.inFlow then lexer.blockScalar .folded
    else if c = '\'' then lexer.quotedScalar c .singleQuoted
    else if c = '"' then lexer.quotedScalar c .doubleQuoted
    else if lexer.startsPlain c then lexer.plainScalar
    else cursor.fail "found character that cannot start any token"

/-- The next token, and the ends of the block collections before it. -/
def step (lexer : Lexer) : Result := do
  let lexer ← (lexer.skipToToken (lexer.cursor.rest.length + 1)).dropStale
  (lexer.closeBlocks lexer.mark.column).token

/-- All tokens up to the end of the text.  Every step but the last takes a character. -/
def run : Nat → Lexer → Result
  | 0, lexer => lexer.cursor.fail "found unexpected end of stream"
  | fuel + 1, lexer => do
    let lexer ← lexer.step
    match lexer.tokens.back? with
    | some ⟨.streamEnd, _, _⟩ => .ok lexer
    | _ => run fuel lexer

end Lexer

def isAllowed (c : Char) : Bool :=
  let n := c.toNat
  c = '\t' || c = '\n' || c = '\r' || (0x20 ≤ n && n ≤ 0x7e) || n = 0x85 ||
    (0xa0 ≤ n && n ≤ 0xd7ff) || (0xe000 ≤ n && n ≤ 0xfffd) || 0x10000 ≤ n

def tokens (text : String) : Except Malformed (Array Token) := do
  let chars := text.toList
  if chars.all isAllowed then
    let lexer ← (Lexer.start chars).run (chars.length + 1)
    .ok lexer.tokens
  else .error ⟨"control characters are not allowed", .origin⟩

end JsonExtract.Yaml
