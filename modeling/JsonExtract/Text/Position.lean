/-!
# Places in a text

Lines count from one and end with a line feed.  Columns count the bytes of the UTF-8
encoding since the start of the line.
-/

namespace JsonExtract.Text

def byteLength : List Char → Nat
  | [] => 0
  | c :: rest => c.utf8Size + byteLength rest

structure Position where
  line : Nat
  column : Nat
deriving DecidableEq, Repr

/-- The place reached by moving on over this many bytes of text. -/
def Position.advance (place : Position) : List Char → Nat → Position
  | [], _ => place
  | c :: rest, bytes =>
    if bytes < c.utf8Size then { place with column := place.column + bytes }
    else if c = '\n' then Position.advance ⟨place.line + 1, 0⟩ rest (bytes - 1)
    else Position.advance { place with column := place.column + c.utf8Size } rest
      (bytes - c.utf8Size)

def Position.ofOffset (text : List Char) (offset : Nat) : Position :=
  Position.advance ⟨1, 0⟩ text offset

end JsonExtract.Text
