import JsonExtract.Json.Basic
import JsonExtract.Path.Reader

/-!
# Resolving paths

A path leads to a value or to nothing.  Names and positions reach into both kinds of
container: a canonical decimal name addresses an element of an array, and a position
addresses the member of an object that its decimal text names.  A wildcard keeps every
element of an array in its place, with null where the rest of the path leads to nothing.
-/

namespace JsonExtract

namespace Path

/-- The position that a canonical decimal name stands for: digits without a leading zero. -/
def position? (name : String) : Option Nat :=
  match name.toList with
  | [] => none
  | first :: rest =>
    if (first :: rest).all Char.isDigit && (rest.isEmpty || first ≠ '0') then
      some (Decimal.ofDigits (first :: rest))
    else none

end Path

namespace Json

def child? (name : String) : Json → Option Json
  | .object members => Keyed.get? name members
  | .array items => (Path.position? name).bind fun position => items[position]?
  | _ => none

def element? (position : Nat) : Json → Option Json
  | .array items => items[position]?
  | .object members => Keyed.get? (toString position) members
  | _ => none

end Json

namespace Path

/-- The value that the steps lead to. -/
def resolve : List Step → Json → Option Json
  | [], value => some value
  | .key name :: rest, value => (value.child? name).bind (resolve rest)
  | .index position :: rest, value => (value.element? position).bind (resolve rest)
  | .wildcard :: rest, value =>
    value.items?.map fun items => .array (items.map fun item => (resolve rest item).getD .null)

/-- The value that a path leads to. -/
def pick (path : String) (value : Json) : Option Json :=
  resolve (tokenize path) value

end Path

end JsonExtract
