/-!
# Places in a YAML text

A mark counts characters and lines from zero.  A cursor is the part of a text that has not
been read, together with the mark of its first character.
-/

namespace JsonExtract.Yaml

structure Mark where
  index : Nat
  line : Nat
  column : Nat
deriving DecidableEq, Repr

def Mark.origin : Mark := ⟨0, 0, 0⟩

/-- Why a text is not one well-formed document, and where that shows. -/
structure Malformed where
  problem : String
  mark : Mark
deriving Repr

/-- Line feed, carriage return, next line, line separator and paragraph separator. -/
def isBreak (c : Char) : Bool :=
  c = '\n' || c = '\r' || c = '\u0085' || c = '\u2028' || c = '\u2029'

def isBlank (c : Char) : Bool :=
  c = ' ' || c = '\t'

def isWord (c : Char) : Bool :=
  c.isAlphanum || c = '_' || c = '-'

def breakOrEnd : Option Char → Bool
  | none => true
  | some c => isBreak c

def blankOrEnd : Option Char → Bool
  | none => true
  | some c => isBlank c || isBreak c

structure Cursor where
  rest : List Char
  mark : Mark

namespace Cursor

def ofText (text : List Char) : Cursor := ⟨text, .origin⟩

def peek (cursor : Cursor) : Option Char := cursor.rest.head?

def peekAt (cursor : Cursor) (n : Nat) : Option Char := cursor.rest[n]?

def sees (cursor : Cursor) (c : Char) : Bool := cursor.peek = some c

def skip (cursor : Cursor) (n : Nat) : Cursor :=
  ⟨cursor.rest.drop n,
    ⟨cursor.mark.index + n, cursor.mark.line, cursor.mark.column + n⟩⟩

def skipWhile (cursor : Cursor) (p : Char → Bool) : Cursor :=
  cursor.skip (cursor.rest.takeWhile p).length

/-- Moves over a line break, a carriage return and a line feed counting as one. -/
def skipBreak (cursor : Cursor) : Cursor :=
  let nextLine (n : Nat) : Cursor :=
    ⟨cursor.rest.drop n, ⟨cursor.mark.index + n, cursor.mark.line + 1, 0⟩⟩
  match cursor.rest with
  | '\r' :: '\n' :: _ => nextLine 2
  | c :: _ => if isBreak c then nextLine 1 else cursor
  | [] => cursor

/-- The text that a line break stands for: a line feed, or a separator of its own. -/
def breakText (cursor : Cursor) : List Char :=
  match cursor.peek with
  | some c => if c = '\u2028' || c = '\u2029' then [c] else if isBreak c then ['\n'] else []
  | none => []

def seesDocumentMarker (cursor : Cursor) (c : Char) : Bool :=
  cursor.mark.column = 0 && cursor.rest.take 3 = [c, c, c] && blankOrEnd (cursor.peekAt 3)

/-- Whether a line starts here that ends the document before it. -/
def seesDocumentBoundary (cursor : Cursor) : Bool :=
  cursor.seesDocumentMarker '-' || cursor.seesDocumentMarker '.'

def fail {α : Type} (cursor : Cursor) (problem : String) : Except Malformed α :=
  .error ⟨problem, cursor.mark⟩

end Cursor

end JsonExtract.Yaml
