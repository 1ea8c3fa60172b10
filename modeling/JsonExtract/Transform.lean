import JsonExtract.Coercion
import JsonExtract.Json.Printer
import JsonExtract.Problem

/-!
# Transforms

A transform sees what a path leads to, nothing included, and owns what it returns.  Six
transforms have names.
-/

namespace JsonExtract

/-- From what a path leads to, to what is picked. -/
abbrev Transform := Option Json → Option Json

namespace Transform

inductive Builtin where
  /-- The number of elements, members or characters. -/
  | length
  /-- The first element of an array. -/
  | first
  /-- The last element of an array. -/
  | last
  /-- An array without its nulls. -/
  | compact
  /-- A string as it is, and any other value as its text. -/
  | string
  /-- The sum of the numbers in an array, numeric strings included. -/
  | sum
deriving DecidableEq, Repr

namespace Builtin

def all : List Builtin := [.length, .first, .last, .compact, .string, .sum]

def name : Builtin → String
  | .length => "length"
  | .first => "first"
  | .last => "last"
  | .compact => "compact"
  | .string => "string"
  | .sum => "sum"

def ofName? (name : String) : Option Builtin :=
  all.find? (·.name = name)

end Builtin

/-- The number that a value counts as in a sum. -/
def term? : Json → Option Number
  | .number n => some n
  | .string s => Number.ofNumeral? s
  | _ => none

/-- The sum in 64 bits, as long as every term and every partial sum fits. -/
def signedSum? (terms : List Number) : Option Int :=
  terms.foldlM (fun total term => do
    let next := total + (← term.signed?)
    if -0x8000000000000000 ≤ next ∧ next < 0x8000000000000000 then some next else none) 0

/-- The sum in doubles, from left to right.  An empty sum would be negative zero. -/
def floatSum (terms : List Number) : Float :=
  terms.foldl (fun total term => total + term.toFloat) (-0.0)

def sumOf (terms : List Number) : Option Json :=
  match signedSum? terms with
  | some total => (Number.ofInt? total).map .number
  | none => (Number.ofFloat? (floatSum terms)).map .number

namespace Builtin

def onValue : Builtin → Json → Option Json
  | .length, .array items => Json.ofNat? items.length
  | .length, .string s => Json.ofNat? s.length
  | .length, .object members => Json.ofNat? members.length
  | .length, _ => none
  | .first, .array items => items.head?
  | .first, _ => none
  | .last, .array items => items.getLast?
  | .last, _ => none
  | .compact, .array items => some (.array (items.filter (!·.isNull)))
  | .compact, value => some value
  | .string, .string s => some (.string s)
  | .string, .null => none
  | .string, value => some (.string value.compact)
  | .sum, .array items => sumOf (items.filterMap term?)
  | .sum, _ => none

/-- The transform as a function.  Nothing stays nothing. -/
def apply (builtin : Builtin) : Transform :=
  fun value => value.bind builtin.onValue

end Builtin

end Transform

end JsonExtract
