import JsonExtract.Decimal.Notation

/-!
# The double nearest to a decimal

A decimal is read as the double nearest to it, infinity included.  Decimals far beyond the
range of doubles are recognised by their length, so that no large power of ten is computed.
-/

namespace JsonExtract.Decimal

/-- The double nearest to `digits · 10 ^ exponent`. -/
def nearest (negative : Bool) (digits : List Char) (exponent : Int) : Float :=
  let significant := digits.dropWhile (· = '0')
  let size : Int := significant.length + exponent
  let magnitude : Float :=
    if significant.isEmpty || size < -400 then 0
    else if 400 < size then 1 / 0
    else Float.ofScientific (ofDigits significant) (exponent < 0) exponent.natAbs
  if negative then -magnitude else magnitude

def takeSign : List Char → Bool × List Char
  | '-' :: rest => (true, rest)
  | '+' :: rest => (false, rest)
  | rest => (false, rest)

def digits? (text : List Char) : Option Nat :=
  if !text.isEmpty && text.all Char.isDigit then some (ofDigits text) else none

/-- The exponent that a text gives, the empty text giving none. -/
def exponent? : List Char → Option Int
  | [] => some 0
  | e :: rest =>
    if e = 'e' || e = 'E' then
      let (negative, text) := takeSign rest
      (digits? text).map fun n => if negative then -(n : Int) else n
    else none

/-- The double that a text stands for: an optional sign, digits with or without a point, and
an optional exponent. -/
def float? (text : List Char) : Option Float :=
  let (negative, text) := takeSign text
  let whole := text.takeWhile Char.isDigit
  let rest := text.dropWhile Char.isDigit
  let (fraction, rest) :=
    match rest with
    | '.' :: rest => (rest.takeWhile Char.isDigit, rest.dropWhile Char.isDigit)
    | rest => ([], rest)
  if whole.isEmpty && fraction.isEmpty then none
  else (exponent? rest).map fun e => nearest negative (whole ++ fraction) (e - fraction.length)

/-- The text of a float in positional notation, whatever its size. -/
def positionalText (x : Float) : String :=
  if x.isNaN then "NaN"
  else if x.isInf then if x < 0 then "-inf" else "inf"
  else
    let b := Binary.ofFloat x
    let magnitude :=
      if b.mantissa = 0 then ['0', '.', '0']
      else
        let d := shortest b
        let all := toDigits d.digits
        positional (trimZeros all) (all.length + d.exponent)
    String.ofList (if x.toBits.toNat / 0x8000000000000000 = 1 then '-' :: magnitude else magnitude)

end JsonExtract.Decimal
