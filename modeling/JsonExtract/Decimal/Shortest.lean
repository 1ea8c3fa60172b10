/-!
# Shortest decimal digits of a binary fraction

A positive binary fraction `m · 2 ^ q` stands for every real number that rounds
to it.  On each decimal grid, from the coarsest to the finest, its two
neighbours are tested in exact integer arithmetic; the first grid on which one
of them rounds back gives the digits.  If both do, the nearer one is taken, and
an exact tie goes to the even digit.
-/

namespace JsonExtract.Decimal

/-- The decimal `digits · 10 ^ exponent`. -/
structure Scaled where
  digits : Nat
  exponent : Int
deriving DecidableEq, Repr

/-- A positive finite double as `mantissa · 2 ^ exponent`. -/
structure Binary where
  mantissa : Nat
  exponent : Int
deriving DecidableEq, Repr

/-- The absolute value of a finite double, read off its bits. -/
def Binary.ofFloat (x : Float) : Binary :=
  let bits : Nat := x.toBits.toNat
  let fraction : Nat := bits % 0x10000000000000
  let biased : Nat := bits / 0x10000000000000 % 0x800
  if biased = 0 then ⟨fraction, -1074⟩ else ⟨fraction + 0x10000000000000, biased - 1075⟩

/-- Whether the next smaller double lies only half as far away as the next larger one. -/
def Binary.startsBinade (b : Binary) : Bool :=
  b.mantissa = 0x10000000000000 && -1074 < b.exponent

/-- The numerator of `4 · b` on the grid of multiples of `10 ^ k`, over `gridDenominator b k`. -/
def gridNumerator (b : Binary) (k : Int) (quarters : Nat) : Nat :=
  quarters * Nat.pow 2 b.exponent.toNat * Nat.pow 10 (-k).toNat

def gridDenominator (b : Binary) (k : Int) : Nat :=
  4 * Nat.pow 2 (-b.exponent).toNat * Nat.pow 10 k.toNat

/-- Whether `c · 10 ^ k` is one of the numbers that round to `b`.  The ends of the interval
belong to it exactly when the mantissa is even. -/
def roundsBack (b : Binary) (k : Int) (c : Nat) : Bool :=
  let below := gridNumerator b k (4 * b.mantissa - if b.startsBinade then 1 else 2)
  let above := gridNumerator b k (4 * b.mantissa + 2)
  let candidate := c * gridDenominator b k
  if b.mantissa % 2 = 0 then below ≤ candidate && candidate ≤ above
  else below < candidate && candidate < above

/-- The nearer of the two grid neighbours of `b` that rounds back, if one does. -/
def onGrid? (b : Binary) (k : Int) : Option Nat :=
  let value := gridNumerator b k (4 * b.mantissa)
  let unit := gridDenominator b k
  let low := value / unit
  let high := low + 1
  match low ≠ 0 && roundsBack b k low, roundsBack b k high with
  | false, false => none
  | true, false => some low
  | false, true => some high
  | true, true =>
    let beyond := 2 * (value % unit)
    if beyond < unit then some low
    else if unit < beyond then some high
    else if low % 2 = 0 then some low else some high

/-- The grids worth trying, the coarsest first.  The last one holds the value itself. -/
def grids (b : Binary) : List Int :=
  let whole := b.mantissa * Nat.pow 2 b.exponent.toNat / Nat.pow 2 (-b.exponent).toNat
  let top := (Nat.toDigits 10 whole).length
  (List.range (top + (-b.exponent).toNat + 1)).map fun (step : Nat) => (top : Int) - step

/-- The fewest digits that read back as `b`, and of those the nearest. -/
def shortest (b : Binary) : Scaled :=
  ((grids b).findSome? fun k => (onGrid? b k).map (⟨·, k⟩)).getD ⟨b.mantissa, 0⟩

end JsonExtract.Decimal
