/-!
# Segments of paths

A path is a row of segments.  A segment may mean this place or the place above instead of a
name, and a path without such segments leads to the same place.  Some places have none above
them.
-/

namespace JsonExtract.Url.Segments

variable {α : Type}

structure Meaning (α : Type) where
  isHere : α → Bool
  isAbove : α → Bool
  /-- Whether there is nothing above the place of this name. -/
  isTop : α → Bool

/-- The place above, the last segment being the first of the list. -/
def above (meaning : Meaning α) : List α → List α
  | [] => []
  | last :: before => if meaning.isTop last then last :: before else before

/-- The segments of a row that lead to the same place, the last first.  The row starts where
`done` leads to, and if it ends at a place without naming it, an empty segment comes last. -/
def settleFrom [Inhabited α] (meaning : Meaning α) (done : List α) : List α → List α
  | [] => done
  | [last] =>
    if meaning.isAbove last then default :: above meaning done
    else if meaning.isHere last then default :: done
    else last :: done
  | segment :: rest =>
    if meaning.isAbove segment then settleFrom meaning (above meaning done) rest
    else if meaning.isHere segment then settleFrom meaning done rest
    else settleFrom meaning (segment :: done) rest

def settle [Inhabited α] (meaning : Meaning α) (row : List α) : List α :=
  (settleFrom meaning [] row).reverse

end JsonExtract.Url.Segments
