import JsonExtract.Keyed
import JsonExtract.Json.Number

/-!
# Documents

A document keeps the members of an object in the order in which they first appeared.
-/

namespace JsonExtract

inductive Json where
  | null
  | bool (value : Bool)
  | number (value : Number)
  | string (value : String)
  | array (items : List Json)
  | object (members : List (String × Json))

namespace Json

instance : Inhabited Json := ⟨.null⟩

def isNull : Json → Bool
  | .null => true
  | _ => false

def items? : Json → Option (List Json)
  | .array items => some items
  | _ => none

/-- A natural number below 2⁶⁴, such as the length of a list, as a document. -/
def ofNat? (n : Nat) : Option Json :=
  (Number.ofInt? n).map .number

end Json

end JsonExtract
