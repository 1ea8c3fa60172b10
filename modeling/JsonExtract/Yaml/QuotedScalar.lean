import JsonExtract.Yaml.Token

/-!
# Quoted and plain scalars

Quoted and plain scalars may run over several lines.  White space inside a line is kept,
and a line break folds: one break becomes a space, and of several breaks the first is
dropped.
-/

namespace JsonExtract.Yaml

/-- The white space between two words of a scalar. -/
structure Gap where
  /-- Whether a line break has been passed. -/
  broken : Bool
  blanks : List Char
  firstBreak : List Char
  moreBreaks : List Char

namespace Gap

def none : Gap := ⟨false, [], [], []⟩

def escaped : Gap := ⟨true, [], [], []⟩

def text (gap : Gap) : List Char :=
  if gap.broken then
    if gap.firstBreak = ['\n'] then
      if gap.moreBreaks.isEmpty then [' '] else gap.moreBreaks
    else gap.firstBreak ++ gap.moreBreaks
  else gap.blanks

def extend (gap : Gap) (cursor : Cursor) : Gap × Cursor :=
  match cursor.peek with
  | some c =>
    if isBreak c then
      let br := cursor.breakText
      (if gap.broken then { gap with moreBreaks := gap.moreBreaks ++ br }
       else ⟨true, [], br, gap.moreBreaks⟩, cursor.skipBreak)
    else (if gap.broken then gap else { gap with blanks := gap.blanks ++ [c] }, cursor.skip 1)
  | _ => (gap, cursor)

def read : Nat → Gap → Cursor → Gap × Cursor
  | 0, gap, cursor => (gap, cursor)
  | fuel + 1, gap, cursor =>
    if (cursor.peek.any fun c => isBlank c || isBreak c) then
      let (gap, cursor) := gap.extend cursor
      read fuel gap cursor
    else (gap, cursor)

end Gap

def escapedChar? (c : Char) : Option Char :=
  match c with
  | '0' => some '\x00'
  | 'a' => some '\x07'
  | 'b' => some '\x08'
  | 't' => some '\t'
  | '\t' => some '\t'
  | 'n' => some '\n'
  | 'v' => some '\x0b'
  | 'f' => some '\x0c'
  | 'r' => some '\r'
  | 'e' => some '\x1b'
  | ' ' => some ' '
  | '"' => some '"'
  | '/' => some '/'
  | '\\' => some '\\'
  | 'N' => some '\u0085'
  | '_' => some '\u00a0'
  | 'L' => some '\u2028'
  | 'P' => some '\u2029'
  | _ => none

def escapeLength? (c : Char) : Option Nat :=
  match c with
  | 'x' => some 2
  | 'u' => some 4
  | 'U' => some 8
  | _ => none

def hexValue? (c : Char) : Option Nat :=
  if c.isDigit then some (c.toNat - '0'.toNat)
  else if 'a' ≤ c && c ≤ 'f' then some (c.toNat - 'a'.toNat + 10)
  else if 'A' ≤ c && c ≤ 'F' then some (c.toNat - 'A'.toNat + 10)
  else none

def hexNumber? (digits : List Char) : Option Nat :=
  digits.foldlM (fun value c => (hexValue? c).map (16 * value + ·)) 0

def readEscape (cursor : Cursor) : Except Malformed (Char × Cursor) :=
  match cursor.peekAt 1 with
  | none => cursor.fail "found unknown escape character"
  | some letter =>
    match escapedChar? letter, escapeLength? letter with
    | some c, _ => .ok (c, cursor.skip 2)
    | none, none => cursor.fail "found unknown escape character"
    | none, some length =>
      let digits := (cursor.rest.drop 2).take length
      match if digits.length = length then hexNumber? digits else none with
      | none => cursor.fail "did not find expected hexdecimal number"
      | some code =>
        if h : code.isValidChar then .ok (Char.ofNatAux code h, cursor.skip (2 + length))
        else cursor.fail "found invalid Unicode character escape code"

/-- The characters of a quoted scalar up to white space or the closing quote, in reverse,
and the gap that an escaped line break opens. -/
def readQuotedWord (quote : Char) :
    Nat → List Char → Cursor → Except Malformed (List Char × Gap × Cursor)
  | 0, done, cursor => .ok (done, .none, cursor)
  | fuel + 1, done, cursor =>
    match cursor.peek with
    | none => .ok (done, .none, cursor)
    | some c =>
      if isBlank c || isBreak c then .ok (done, .none, cursor)
      else if quote = '\'' && c = '\'' && cursor.peekAt 1 = some '\'' then
        readQuotedWord quote fuel ('\'' :: done) (cursor.skip 2)
      else if c = quote then .ok (done, .none, cursor)
      else if quote = '"' && c = '\\' then
        if cursor.peekAt 1 |>.any isBreak then
          .ok (done, .escaped, (cursor.skip 1).skipBreak)
        else do
          let (c, cursor) ← readEscape cursor
          readQuotedWord quote fuel (c :: done) cursor
      else readQuotedWord quote fuel (c :: done) (cursor.skip 1)

/-- The lines of a quoted scalar, in reverse, and the cursor on the closing quote. -/
def readQuotedLines (quote : Char) :
    Nat → List Char → Cursor → Except Malformed (List Char × Cursor)
  | 0, _, cursor => cursor.fail "found unexpected end of stream"
  | fuel + 1, done, cursor =>
    if cursor.seesDocumentBoundary then cursor.fail "found unexpected document indicator"
    else if cursor.rest.isEmpty then cursor.fail "found unexpected end of stream"
    else do
      let (done, gap, cursor) ← readQuotedWord quote cursor.rest.length done cursor
      if cursor.sees quote then .ok (done, cursor)
      else
        let (gap, cursor) := gap.read cursor.rest.length cursor
        readQuotedLines quote fuel (gap.text.reverse ++ done) cursor

def readQuoted (quote : Char) (cursor : Cursor) : Except Malformed (String × Cursor) := do
  let (done, cursor) ← readQuotedLines quote (cursor.rest.length + 1) [] (cursor.skip 1)
  .ok (String.ofList done.reverse, cursor.skip 1)

def isFlowIndicator (c : Char) : Bool :=
  c = ',' || c = '[' || c = ']' || c = '\x7b' || c = '\x7d'

def plainEnds (inFlow : Bool) (cursor : Cursor) : Bool :=
  match cursor.peek with
  | none => true
  | some c =>
    isBlank c || isBreak c || (c = ':' && blankOrEnd (cursor.peekAt 1)) ||
      (inFlow && isFlowIndicator c)

/-- The characters of a plain scalar up to white space or an indicator, in reverse. -/
def readPlainWord (inFlow : Bool) :
    Nat → List Char → Cursor → Except Malformed (List Char × Cursor)
  | 0, done, cursor => .ok (done, cursor)
  | fuel + 1, done, cursor =>
    if inFlow && cursor.sees ':' &&
        (cursor.peekAt 1).any (fun c => isFlowIndicator c || c = '?') then
      cursor.fail "found unexpected ':'"
    else if plainEnds inFlow cursor then .ok (done, cursor)
    else
      match cursor.peek with
      | none => .ok (done, cursor)
      | some c => readPlainWord inFlow fuel (c :: done) (cursor.skip 1)

def tabIndents (indent : Int) : Nat → Bool → Cursor → Bool
  | 0, _, _ => false
  | fuel + 1, broken, cursor =>
    match cursor.peek with
    | some c =>
      if isBreak c then tabIndents indent fuel true cursor.skipBreak
      else if isBlank c then
        (broken && (cursor.mark.column : Int) < indent && c = '\t') ||
          tabIndents indent fuel broken (cursor.skip 1)
      else false
    | none => false

/-- A plain scalar: its text in reverse, the mark behind its last word, whether a line break
follows that word, and the cursor behind the white space that follows. -/
structure PlainScan where
  done : List Char
  stop : Mark
  broken : Bool
  cursor : Cursor

/-- The words of a plain scalar.  `indent` is the least column of a continuation line. -/
def readPlainWords (inFlow : Bool) (indent : Int) :
    Nat → Gap → PlainScan → Except Malformed PlainScan
  | 0, _, scan => .ok scan
  | fuel + 1, gap, scan =>
    let cursor := scan.cursor
    if cursor.seesDocumentBoundary || cursor.sees '#' then .ok scan
    else do
      let (word, cursor) ← readPlainWord inFlow cursor.rest.length [] cursor
      let scan : PlainScan :=
        if word.isEmpty then { scan with cursor := cursor }
        else ⟨word ++ (gap.text.reverse ++ scan.done), cursor.mark, false, cursor⟩
      let gap := if word.isEmpty then gap else .none
      if !(cursor.peek.any fun c => isBlank c || isBreak c) then .ok scan
      else if tabIndents indent cursor.rest.length gap.broken cursor then
        cursor.fail "found a tab character that violates indentation"
      else
        let (gap, cursor) := gap.read cursor.rest.length cursor
        let scan := { scan with broken := gap.broken, cursor := cursor }
        if !inFlow && (cursor.mark.column : Int) < indent then .ok scan
        else readPlainWords inFlow indent fuel gap scan

def readPlain (inFlow : Bool) (indent : Int) (cursor : Cursor) : Except Malformed PlainScan :=
  readPlainWords inFlow indent (cursor.rest.length + 1) .none ⟨[], cursor.mark, false, cursor⟩

end JsonExtract.Yaml
