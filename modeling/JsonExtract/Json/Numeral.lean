import JsonExtract.Json.Number
import JsonExtract.Json.Fault

/-!
# Numerals in documents

A numeral without fraction and exponent that fits is read exactly.  Any other numeral is
read as a double in two steps: its digits are gathered into a significand below 2⁶⁴, the
digits that no longer fit being dropped, and the significand, rounded to a double, is
multiplied or divided by a power of ten.
-/

namespace JsonExtract.Json.Numeral

def digitValue (c : Char) : Nat := c.toNat - '0'.toNat

/-- The digits as far as they fit below the bound, and how many of them were taken. -/
def gather (bound significand taken : Nat) : List Char → Nat × Nat × List Char
  | [] => (significand, taken, [])
  | c :: rest =>
    if c.isDigit && 10 * significand + digitValue c < bound then
      gather bound (10 * significand + digitValue c) (taken + 1) rest
    else (significand, taken, c :: rest)

def skipDigits (text : List Char) : List Char :=
  text.dropWhile Char.isDigit

def powerOfTen (n : Nat) : Float := Float.ofScientific 1 false n

/-- Division by `10 ^ n`, in steps of at most `10 ^ 308`. -/
def scaleDown (x : Float) (n : Nat) : Float :=
  if n ≤ 308 then x / powerOfTen n
  else if x == 0 then x
  else scaleDown (x / powerOfTen 308) (n - 308)
termination_by n
decreasing_by omega

/-- The double `significand · 10 ^ exponent`, or nothing when it is too large. -/
def scale? (significand : Nat) (exponent : Int) : Option Float :=
  let x := Float.ofNat significand
  if exponent < 0 then some (scaleDown x exponent.natAbs)
  else if exponent ≤ 308 then
    let y := x * powerOfTen exponent.natAbs
    if y.isInf then none else some y
  else if x == 0 then some x
  else none

def signed (negative : Bool) (x : Float) : Float := if negative then -x else x

def real (x : Float) (rest : List Char) : Except Fault (Split Number) :=
  match Number.ofFloat? x with
  | some n => .ok (n, rest)
  | none => .error (.before .numberOutOfRange rest)

def scaled (negative : Bool) (significand : Nat) (exponent : Int) (rest : List Char) :
    Except Fault (Split Number) :=
  match scale? significand exponent with
  | some x => real (signed negative x) rest
  | none => .error (.before .numberOutOfRange rest)

def exponent (negative : Bool) (significand : Nat) (start : Int) (text : List Char) :
    Except Fault (Split Number) :=
  let (down, digits) :=
    match text with
    | '+' :: rest => (false, rest)
    | '-' :: rest => (true, rest)
    | rest => (false, rest)
  match digits with
  | [] => .error (.before .unfinishedValue [])
  | c :: _ =>
    if !c.isDigit then .error (.within .malformedNumber digits)
    else
      let (value, _, rest) := gather 0x80000000 0 0 digits
      match rest with
      | d :: beyond =>
        if d.isDigit then
          if significand ≠ 0 && !down then .error (.before .numberOutOfRange beyond)
          else real (signed negative 0.0) (skipDigits beyond)
        else scaled negative significand (if down then start - value else start + value) rest
      | [] => scaled negative significand (if down then start - value else start + value) rest

/-- What may follow the digits: an exponent or the end. -/
def afterDigits (negative : Bool) (significand : Nat) (start : Int) :
    List Char → Except Fault (Split Number)
  | 'e' :: rest => exponent negative significand start rest
  | 'E' :: rest => exponent negative significand start rest
  | rest => scaled negative significand start rest

def fraction (negative : Bool) (significand : Nat) (start : Int) (text : List Char) :
    Except Fault (Split Number) :=
  let (value, taken, rest) := gather 0x10000000000000000 significand 0 text
  if taken = 0 && !(rest.head?.any Char.isDigit) then
    match rest with
    | [] => .error (.before .unfinishedValue [])
    | _ => .error (.within .malformedNumber rest)
  else afterDigits negative value (start - taken) (skipDigits rest)

/-- An integer whose digits all fit, when neither fraction nor exponent follows. -/
def whole (negative : Bool) (significand : Nat) (rest : List Char) : Except Fault (Split Number) :=
  if negative && significand = 0 then real (-0.0) rest
  else
    match Number.ofInt? (if negative then -significand else significand) with
    | some n => .ok (n, rest)
    | none => real (signed negative (Float.ofNat significand)) rest

/-- What may follow the integer digits, `dropped` of which did not fit. -/
def afterInteger (negative : Bool) (significand : Nat) (text : List Char) :
    Except Fault (Split Number) :=
  let rest := skipDigits text
  let dropped := (text.takeWhile Char.isDigit).length
  match rest with
  | '.' :: tail => fraction negative significand dropped tail
  | 'e' :: tail => exponent negative significand dropped tail
  | 'E' :: tail => exponent negative significand dropped tail
  | _ =>
    if dropped = 0 then whole negative significand rest
    else scaled negative significand dropped rest

def read (negative : Bool) : List Char → Except Fault (Split Number)
  | [] => .error (.before .unfinishedValue [])
  | '0' :: rest =>
    if rest.head?.any Char.isDigit then .error (.within .malformedNumber rest)
    else afterInteger negative 0 rest
  | c :: rest =>
    if c.isDigit then
      let (significand, _, tail) := gather 0x10000000000000000 0 0 (c :: rest)
      afterInteger negative significand tail
    else .error (.within .malformedNumber (c :: rest))

end JsonExtract.Json.Numeral
