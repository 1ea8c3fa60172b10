import JsonExtract.Decimal.Reading
import JsonExtract.Url.Percent

/-!
# Addresses of 128 bits

An address is eight groups of up to four hexadecimal digits with colons between them.  Two
colons in a row stand once for groups that are zero, and four decimal octets with dots between
them may take the place of the last two groups.
-/

namespace JsonExtract.Url.Ipv6

def group? (digits : List Char) : Option Nat :=
  if digits.isEmpty || 4 < digits.length then none
  else digits.foldlM (fun value c => (Percent.hexValue? c).map (16 * value + ·)) 0

/-- One of the decimal octets, which has no zero in front of others. -/
def octet? (digits : List Char) : Option Nat :=
  if digits.head? = some '0' ∧ digits ≠ ['0'] then none
  else (Decimal.digits? digits).filter (· < 256)

def dotted? (text : List Char) : Option (List Nat) :=
  match (text.splitOn '.').mapM octet? with
  | some [a, b, c, d] => some [256 * a + b, 256 * c + d]
  | _ => none

/-- The groups of a row, decimal octets being allowed at its end if `final`. -/
def row? (final : Bool) : List (List Char) → Option (List Nat)
  | [] => some []
  | [last] =>
    if final && last.contains '.' then dotted? last else (group? last).map ([·])
  | part :: rest => do
    let group ← group? part
    let others ← row? final rest
    return group :: others

def groups? (final : Bool) (text : List Char) : Option (List Nat) :=
  if text.isEmpty then some [] else row? final (text.splitOn ':')

/-- Splits a text at the first two colons in a row. -/
def splitAtGap : List Char → Option (List Char × List Char)
  | ':' :: ':' :: rest => some ([], rest)
  | c :: rest => (splitAtGap rest).map fun (before, after) => (c :: before, after)
  | [] => none

def ofText? (text : List Char) : Option (List Nat) :=
  match splitAtGap text with
  | some (before, after) => do
    let front ← groups? false before
    let back ← groups? true after
    let count := front.length + back.length
    if count ≤ 7 then some (front ++ List.replicate (8 - count) 0 ++ back) else none
  | none => do
    let groups ← groups? true text
    if groups.length = 8 then some groups else none

def zerosInFront (groups : List Nat) : Nat :=
  (groups.takeWhile (· == 0)).length

def longestGap : List Nat → Nat
  | [] => 0
  | group :: rest => max (zerosInFront (group :: rest)) (longestGap rest)

def groupText (group : Nat) : String :=
  String.ofList (Nat.toDigits 16 group)

def rowText (groups : List Nat) : String :=
  String.intercalate ":" (groups.map groupText)

def beforeGap (length : Nat) : List Nat → List Nat
  | [] => []
  | group :: rest =>
    if zerosInFront (group :: rest) = length then [] else group :: beforeGap length rest

/-- The groups in square brackets, the first of the longest rows of zeros being left out if
it has more than one. -/
def text (groups : List Nat) : String :=
  let gap := longestGap groups
  let body :=
    if gap < 2 then rowText groups
    else
      let before := beforeGap gap groups
      rowText before ++ "::" ++ rowText (groups.drop (before.length + gap))
  "[" ++ body ++ "]"

end JsonExtract.Url.Ipv6
