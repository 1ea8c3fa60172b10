import JsonExtract.Decimal.Notation

/-!
# Numbers of a document

A document holds whole numbers from −2⁶³ up to 2⁶⁴ − 1 exactly and every other number as
a finite double.  The two kinds never mix: a double with an integral value stays a double
and is written with a fraction or an exponent.
-/

namespace JsonExtract

/-- An integer that a document can hold exactly. -/
structure WholeNumber where
  val : Int
  lower : -0x8000000000000000 ≤ val
  upper : val < 0x10000000000000000
deriving DecidableEq

inductive Number where
  | whole (n : WholeNumber)
  | real (x : Float) (finite : x.isFinite = true)
deriving DecidableEq

namespace Number

/-- The integer as an exact number, when it lies in the range of exact numbers. -/
def ofInt? (z : Int) : Option Number :=
  if h : -0x8000000000000000 ≤ z ∧ z < 0x10000000000000000 then some (.whole ⟨z, h.1, h.2⟩)
  else none

def ofFloat? (x : Float) : Option Number :=
  if h : x.isFinite = true then some (.real x h) else none

/-- The value as an integer between −2⁶³ and 2⁶³ − 1. -/
def signed? : Number → Option Int
  | .whole n => if n.val < 0x8000000000000000 then some n.val else none
  | .real _ _ => none

def toFloat : Number → Float
  | .whole n => if n.val < 0 then -(Float.ofNat n.val.natAbs) else Float.ofNat n.val.natAbs
  | .real x _ => x

def text : Number → String
  | .whole n => toString n.val
  | .real x _ => Decimal.floatText x

end Number

end JsonExtract
