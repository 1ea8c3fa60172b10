import JsonExtract.Text.Ranges

/-!
# Tables in words

Large tables of code points are kept as text.  A table consists of words with blanks or line
ends between them, and a word consists of hexadecimal numbers.
-/

namespace JsonExtract.Text.Table

def digitValue (c : Char) : Nat :=
  if c.isDigit then c.toNat - '0'.toNat else c.toNat - 'a'.toNat + 10

def number (digits : List Char) : Nat :=
  digits.foldl (fun n c => 16 * n + digitValue c) 0

def words (text : List Char) : List (List Char) :=
  (text.splitOnP Char.isWhitespace).filter (!·.isEmpty)

def rows (text : String) : List (List (List Char)) :=
  ((text.toList.splitOn '\n').map words).filter (!·.isEmpty)

/-- The range that a word gives: its first and its last number with a hyphen between them, or
the one number that is both. -/
def range (word : List Char) : Nat × Nat :=
  match word.splitOn '-' with
  | first :: last :: _ => (number first, number last)
  | _ => (number word, number word)

def ranges (text : String) : List (Nat × Nat) :=
  (words text.toList).map range

end JsonExtract.Text.Table
