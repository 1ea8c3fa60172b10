import JsonExtract.Yaml.Token

/-!
# Block scalars

A block scalar keeps its lines below a header that may fix the indentation and what happens
to the line breaks at the end.  A literal scalar keeps every break; a folded one joins lines
that begin with neither space nor tab.
-/

namespace JsonExtract.Yaml

/-- What happens to the line breaks at the end of a block scalar. -/
inductive Chomping where
  | strip
  | clip
  | keep
deriving DecidableEq, Repr

structure BlockHeader where
  chomping : Chomping
  increment : Option Nat

namespace BlockHeader

def chomping? : Option Char → Option Chomping
  | some '+' => some .keep
  | some '-' => some .strip
  | _ => none

def increment? (cursor : Cursor) : Except Malformed (Option Nat × Cursor) :=
  match cursor.peek with
  | some c =>
    if c = '0' then cursor.fail "found an indentation indicator equal to 0"
    else if c.isDigit then .ok (some (c.toNat - '0'.toNat), cursor.skip 1)
    else .ok (none, cursor)
  | none => .ok (none, cursor)

def read (cursor : Cursor) : Except Malformed (BlockHeader × Cursor) :=
  match chomping? cursor.peek with
  | some chomping => do
    let (increment, cursor) ← increment? (cursor.skip 1)
    .ok (⟨chomping, increment⟩, cursor)
  | none => do
    let (increment, cursor) ← increment? cursor
    match increment, chomping? cursor.peek with
    | some n, some chomping => .ok (⟨chomping, some n⟩, cursor.skip 1)
    | increment, _ => .ok (⟨.clip, increment⟩, cursor)

end BlockHeader

def finishLine (cursor : Cursor) : Except Malformed Cursor :=
  let cursor := cursor.skipWhile isBlank
  let cursor := if cursor.sees '#' then cursor.skipWhile (!isBreak ·) else cursor
  if breakOrEnd cursor.peek then .ok cursor.skipBreak
  else cursor.fail "did not find expected comment or line break"

/-- The empty lines at the cursor, the indentation of the line after them being passed too. -/
structure Leading where
  breaks : List Char
  /-- The greatest column that was reached. -/
  widest : Nat
  stop : Mark
  cursor : Cursor

/-- Passes over empty lines.  The indentation is unknown while it is zero. -/
def readLeading (indent : Nat) : Nat → Leading → Except Malformed Leading
  | 0, found => .ok found
  | fuel + 1, found =>
    let cursor := found.cursor
    let spaces := (cursor.rest.takeWhile (· = ' ')).length
    let cursor :=
      cursor.skip (if indent = 0 then spaces else min spaces (indent - cursor.mark.column))
    let found := { found with widest := max found.widest cursor.mark.column, cursor := cursor }
    if (indent = 0 || cursor.mark.column < indent) && cursor.sees '\t' then
      cursor.fail "found a tab character where an indentation space is expected"
    else if cursor.peek.any isBreak then
      let next := cursor.skipBreak
      readLeading indent fuel
        { found with breaks := found.breaks ++ cursor.breakText, stop := next.mark, cursor := next }
    else .ok found

/-- The indentation of the content, found from its first line unless the header fixes it. -/
def contentIndent (fixed : Nat) (outer : Int) (widest : Nat) : Nat :=
  if fixed ≠ 0 then fixed else max widest (max (outer + 1) 1).toNat

structure BlockScan where
  /-- The text before the last line break, in reverse. -/
  done : List Char
  /-- The line break after the last line. -/
  lastBreak : List Char
  /-- The line breaks of the empty lines that follow. -/
  moreBreaks : List Char
  /-- Whether the last line began with white space. -/
  blankStart : Bool
  stop : Mark
  cursor : Cursor

def BlockScan.joint (scan : BlockScan) (folds blankStart : Bool) : List Char :=
  if folds && scan.lastBreak = ['\n'] && !scan.blankStart && !blankStart then
    if scan.moreBreaks.isEmpty then [' '] else scan.moreBreaks
  else scan.lastBreak ++ scan.moreBreaks

def readBlockLines (folds : Bool) (indent : Nat) :
    Nat → BlockScan → Except Malformed BlockScan
  | 0, scan => .ok scan
  | fuel + 1, scan =>
    let cursor := scan.cursor
    if cursor.mark.column ≠ indent || cursor.rest.isEmpty then .ok scan
    else do
      let blankStart := cursor.peek.any isBlank
      let line := cursor.rest.takeWhile (!isBreak ·)
      let atBreak := cursor.skip line.length
      let next := atBreak.skipBreak
      let found ← readLeading indent (next.rest.length + 1) ⟨[], 0, next.mark, next⟩
      readBlockLines folds indent fuel
        { done := line.reverse ++ ((scan.joint folds blankStart).reverse ++ scan.done)
          lastBreak := atBreak.breakText
          moreBreaks := found.breaks
          blankStart := blankStart
          stop := found.stop
          cursor := found.cursor }

/-- The block scalar at the cursor, which stands on its indicator.  `outer` is the column of
the enclosing block. -/
def readBlock (folds : Bool) (outer : Int) (cursor : Cursor) :
    Except Malformed (String × Mark × Cursor) := do
  let (header, cursor) ← BlockHeader.read (cursor.skip 1)
  let cursor ← finishLine cursor
  let fixed := header.increment.elim 0 fun n => if 0 ≤ outer then outer.toNat + n else n
  let found ← readLeading fixed (cursor.rest.length + 1) ⟨[], 0, cursor.mark, cursor⟩
  let scan ← readBlockLines folds (contentIndent fixed outer found.widest)
    (found.cursor.rest.length + 1) ⟨[], [], found.breaks, false, found.stop, found.cursor⟩
  let tail :=
    match header.chomping with
    | .strip => []
    | .clip => scan.lastBreak
    | .keep => scan.lastBreak ++ scan.moreBreaks
  .ok (String.ofList (scan.done.reverse ++ tail), scan.stop, scan.cursor)

end JsonExtract.Yaml
