/-!
# Classes of characters given by ranges

A class is a list of closed ranges of code points.
-/

namespace JsonExtract.Text

def inRanges (ranges : List (Nat × Nat)) (c : Char) : Bool :=
  ranges.any fun range => range.1 ≤ c.toNat && c.toNat ≤ range.2

end JsonExtract.Text
