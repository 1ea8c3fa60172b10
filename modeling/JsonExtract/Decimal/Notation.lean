import JsonExtract.Decimal.Shortest

/-!
# Written form of finite floating-point numbers

A finite float is written with the fewest digits that read back.  A leading digit
with decimal exponent from −5 to 15 is written positionally, and the text then always
has a fraction.  Any other exponent is written after an `e` with its sign.
-/

namespace JsonExtract.Decimal

def ofDigits (digits : List Char) : Nat :=
  digits.foldl (fun value c => 10 * value + (c.toNat - '0'.toNat)) 0

/-- Decimal digits of a number, most significant first. -/
def toDigits (n : Nat) : List Char :=
  Nat.toDigits 10 n

def zeros (n : Nat) : List Char :=
  List.replicate n '0'

/-- Positional notation for `digits` read with `scale` digits before the point. -/
def positional (digits : List Char) (scale : Int) : List Char :=
  if scale ≤ 0 then
    '0' :: '.' :: (zeros (-scale).toNat ++ digits)
  else
    let whole := digits.take scale.toNat ++ zeros (scale.toNat - digits.length)
    let fraction := digits.drop scale.toNat
    whole ++ '.' :: (if fraction.isEmpty then ['0'] else fraction)

/-- Exponent notation for `digits` with the point after the first digit. -/
def scientific (digits : List Char) (exponent : Int) : List Char :=
  let significand :=
    match digits with
    | first :: second :: rest => first :: '.' :: second :: rest
    | short => short
  let sign := if exponent < 0 then '-' else '+'
  significand ++ 'e' :: sign :: toDigits exponent.natAbs

def trimZeros (digits : List Char) : List Char :=
  (digits.reverse.dropWhile (· = '0')).reverse

def Scaled.text (d : Scaled) : List Char :=
  let all := toDigits d.digits
  let scale : Int := all.length + d.exponent
  let digits := trimZeros all
  if -5 ≤ scale - 1 && scale - 1 < 16 then positional digits scale
  else scientific digits (scale - 1)

def floatText (x : Float) : String :=
  let b := Binary.ofFloat x
  let magnitude := if b.mantissa = 0 then ['0', '.', '0'] else (shortest b).text
  String.ofList (if x.toBits.toNat / 0x8000000000000000 = 1 then '-' :: magnitude else magnitude)

end JsonExtract.Decimal
