import JsonExtract.Decimal.Reading
import JsonExtract.Text.Quoted
import JsonExtract.Yaml.Node

/-!
# The values of scalars

A plain scalar without a tag is null, a boolean, an integer, a float, or else a text.  An
integer may have a base prefix, and one with a needless leading zero is a text.  A tag of
the core schema asks for one kind of value.  A tag of one's own makes the node a variant,
which no value of a pick specification is.
-/

namespace JsonExtract.Yaml

inductive Value where
  | null
  | bool (value : Bool)
  | integer (value : Int)
  /-- An integer outside the range of exact numbers, and whether it is positive. -/
  | wide (value : Int)
  | float (value : Float)
  | text (value : String)

namespace Value

def description : Value → String
  | .null => "unit value"
  | .bool value => "boolean `" ++ toString value ++ "`"
  | .integer value => "integer `" ++ toString value ++ "`"
  | .wide value =>
    "integer `" ++ toString value ++ "` as " ++ if value < 0 then "i128" else "u128"
  | .float value => "floating point `" ++ Decimal.positionalText value ++ "`"
  | .text value => "string " ++ Text.Quoted.quote value

def isNullWord (s : String) : Bool :=
  s = "~" || s = "null" || s = "Null" || s = "NULL"

def bool? (s : String) : Option Bool :=
  if s = "true" || s = "True" || s = "TRUE" then some true
  else if s = "false" || s = "False" || s = "FALSE" then some false
  else none

def digit? (base : Nat) (c : Char) : Option Nat :=
  (hexValue? c).bind fun n => if n < base then some n else none

/-- A whole text of digits of a base, not empty, as a number. -/
def natural? (base : Nat) (text : List Char) : Option Nat :=
  if text.isEmpty then none
  else text.foldlM (fun value c => (digit? base c).map (base * value + ·)) 0

def prefixed? (text : List Char) : Option Nat :=
  match text with
  | '0' :: 'x' :: digits => natural? 16 digits
  | '0' :: 'o' :: digits => natural? 8 digits
  | '0' :: 'b' :: digits => natural? 2 digits
  | _ => none

def hasLeadingZero (text : List Char) : Bool :=
  match (Decimal.takeSign text).2 with
  | '0' :: second :: rest => (second :: rest).all Char.isDigit
  | _ => false

/-- The integer that a text stands for: an optional sign, and digits that may have a base
prefix. -/
def integer? (text : List Char) : Option Int :=
  let (negative, digits) := Decimal.takeSign text
  let magnitude := (prefixed? digits).or (if hasLeadingZero text then none else natural? 10 digits)
  magnitude.map fun n => if negative then -(n : Int) else n

/-- The natural number below 2⁶⁴ that a text without a minus stands for. -/
def unsigned? (s : String) : Option Nat :=
  match integer? s.toList with
  | some z => if s.toList.head? ≠ some '-' && z < 0x10000000000000000 then some z.toNat else none
  | none => none

/-- The integer as a value, when it has at most 128 bits. -/
def ofInteger? (z : Int) : Option Value :=
  if -0x8000000000000000 ≤ z ∧ z < 0x10000000000000000 then some (.integer z)
  else if -0x80000000000000000000000000000000 ≤ z ∧ z < 0x100000000000000000000000000000000 then
    some (.wide z)
  else none

/-- The float that a text stands for, infinities and the undefined value having words of
their own. -/
def float? (s : String) : Option Float :=
  let unsigned := match s.toList with
    | '+' :: rest => rest
    | rest => rest
  let word := String.ofList unsigned
  if word = ".inf" || word = ".Inf" || word = ".INF" then some (1 / 0)
  else if s = "-.inf" || s = "-.Inf" || s = "-.INF" then some (-1 / 0)
  else if s = ".nan" || s = ".NaN" || s = ".NAN" then some (0 / 0)
  else if unsigned.length < s.length && (unsigned.head?.any fun c => c = '+' || c = '-') then none
  else (Decimal.float? unsigned).bind fun x => if x.isFinite then some x else none

def ofPlain (s : String) : Value :=
  if s.isEmpty || isNullWord s then .null
  else
    match bool? s with
    | some b => .bool b
    | none =>
      match (integer? s.toList).bind ofInteger? with
      | some value => value
      | none =>
        match if hasLeadingZero s.toList then none else float? s with
        | some x => .float x
        | none => .text s

/-- The value of a scalar, or the message that says why its tag does not fit. -/
def ofScalar (tag : Option Tag) (s : String) (style : ScalarStyle) : Except String Value :=
  let expecting (kind : String) (value : Option Value) : Except String Value :=
    match value with
    | some value => .ok value
    | none => .error ("invalid value: string " ++ Text.Quoted.quote s ++ ", expected " ++ kind)
  match tag with
  | none => .ok (if style = .plain then ofPlain s else .text s)
  | some tag =>
    if tag = .core "bool" then expecting "a boolean" ((bool? s).map .bool)
    else if tag = .core "int" then expecting "an integer" ((integer? s.toList).bind ofInteger?)
    else if tag = .core "float" then expecting "a float" ((float? s).map .float)
    else if tag = .core "null" then
      expecting "null" (if isNullWord s then some .null else none)
    else if tag.privateName?.isSome && style = .plain then .ok (ofPlain s)
    else .ok (.text s)

end Value

end JsonExtract.Yaml
