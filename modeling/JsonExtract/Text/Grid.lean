/-!
# Grids of characters

The large character sets of East Asia are tables of numbered places.  A grid keeps 94 places
to a row.  A full stop stands in a place without a character, and the places behind the last
character of a row are left out.
-/

namespace JsonExtract.Text

structure Grid where
  rows : List String

namespace Grid

def width : Nat := 94

def charAt? (grid : Grid) (place : Nat) : Option Char :=
  match (grid.rows.getD (place / width) "").toList[place % width]? with
  | some '.' => none
  | found => found

end Grid

end JsonExtract.Text
