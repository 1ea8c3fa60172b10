import JsonExtract.Decimal.Notation

/-!
# Steps of a path

A path is a list of steps.  A step goes to the member with a name, to the element at a
position, or to every element of an array.  Steps that a text can express are canonical:
their names are not empty and hold no delimiter, and their positions are below 2⁶⁴.
-/

namespace JsonExtract.Path

inductive Step where
  | key (name : String)
  | index (position : Nat)
  | wildcard
deriving DecidableEq, Repr

def isDelimiter (c : Char) : Bool :=
  c = '.' || c = '[' || c = ']'

def positionLimit : Nat := 0x10000000000000000

/-- A name that a path can spell: not empty and without delimiters. -/
def Plain (name : List Char) : Prop :=
  name ≠ [] ∧ ∀ c ∈ name, isDelimiter c = false

/-- A step that a path can spell. -/
def Step.Canonical : Step → Prop
  | .key name => Plain name.toList
  | .index position => position < positionLimit
  | .wildcard => True

/-- The text of a step: a name after a point, a position or a star between brackets. -/
def Step.render : Step → List Char
  | .key name => '.' :: name.toList
  | .index position => '[' :: (Decimal.toDigits position ++ [']'])
  | .wildcard => ['[', '*', ']']

def render (steps : List Step) : List Char :=
  steps.flatMap Step.render

end JsonExtract.Path
