import JsonExtract.Decimal.Reading
import JsonExtract.Json.Basic

/-!
# Numeric strings as numbers

Amounts often arrive as strings.  A numeral is an optional minus, digits, and an optional
fraction; it has neither an exponent nor a plus.  Coercion replaces every string of a
document that is a numeral by its number, and leaves everything else as it is, the names of
members included.
-/

namespace JsonExtract

/-- The parts of a numeral: its sign, its digits, and the digits of its fraction if it has
one. -/
structure Numeral where
  negative : Bool
  whole : List Char
  fraction : Option (List Char)

namespace Numeral

def ofDigits? (negative : Bool) (text : List Char) : Option Numeral :=
  let whole := text.takeWhile Char.isDigit
  if whole.isEmpty then none
  else
    match text.dropWhile Char.isDigit with
    | [] => some ⟨negative, whole, none⟩
    | '.' :: fraction =>
      if !fraction.isEmpty && fraction.all Char.isDigit then some ⟨negative, whole, some fraction⟩
      else none
    | _ => none

def ofText? : List Char → Option Numeral
  | '-' :: text => ofDigits? true text
  | text => ofDigits? false text

def integer? (numeral : Numeral) : Option Int :=
  match numeral.fraction with
  | none =>
    let n := Decimal.ofDigits numeral.whole
    some (if numeral.negative then -(n : Int) else n)
  | some _ => none

def float (numeral : Numeral) : Float :=
  let fraction := numeral.fraction.getD []
  Decimal.nearest numeral.negative (numeral.whole ++ fraction) (-(fraction.length : Int))

/-- The exact integer if it fits, and otherwise the nearest double if it is finite. -/
def number? (numeral : Numeral) : Option Number :=
  (numeral.integer?.bind Number.ofInt?).or (Number.ofFloat? numeral.float)

end Numeral

def Number.ofNumeral? (s : String) : Option Number :=
  (Numeral.ofText? s.toList).bind Numeral.number?

namespace Json

mutual

/-- The document with every numeric string replaced by its number. -/
def coerce : Json → Json
  | .string s => ((Number.ofNumeral? s).map Json.number).getD (.string s)
  | .array items => .array (coerceItems items)
  | .object members => .object (coerceMembers members)
  | .null => .null
  | .bool b => .bool b
  | .number n => .number n

def coerceItems : List Json → List Json
  | [] => []
  | item :: rest => coerce item :: coerceItems rest

def coerceMembers : List (String × Json) → List (String × Json)
  | [] => []
  | (name, value) :: rest => (name, coerce value) :: coerceMembers rest

end

theorem coerceItems_eq_map (items : List Json) : coerceItems items = items.map coerce := by
  induction items with
  | nil => rfl
  | cons item rest ih => simp [coerceItems, ih]

theorem coerceMembers_eq_map (members : List (String × Json)) :
    coerceMembers members = members.map fun member => (member.1, coerce member.2) := by
  induction members with
  | nil => rfl
  | cons member rest ih => simp [coerceMembers, ih]

end Json

end JsonExtract
