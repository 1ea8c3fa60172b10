import JsonExtract.Url.Percent

/-!
# Addresses of 32 bits

An address is up to four numbers with dots between them.  Each number but the last stands for
one octet, and the last one fills the octets that remain.  Numbers are decimal, octal behind a
zero, or hexadecimal behind `0x`.
-/

namespace JsonExtract.Url.Ipv4

def inBase? (base : Nat) (digits : List Char) : Option Nat :=
  digits.foldlM (fun value c =>
    match Percent.hexValue? c with
    | some d => if d < base then some (base * value + d) else none
    | none => none) 0

def number? : List Char → Option Nat
  | [] => none
  | '0' :: 'x' :: digits => inBase? 16 digits
  | '0' :: 'X' :: digits => inBase? 16 digits
  | '0' :: c :: digits => inBase? 8 (c :: digits)
  | digits => inBase? 10 digits

/-- The parts of a host, the one behind a dot at the end left out. -/
def parts (host : List Char) : List (List Char) :=
  let all := host.splitOn '.'
  if all.getLast? = some [] then all.dropLast else all

/-- Whether the host is an address, or none at all, for ending like one. -/
def looksNumeric (host : List Char) : Bool :=
  match (parts host).getLast? with
  | some last => (!last.isEmpty && last.all Char.isDigit) || (number? last).isSome
  | none => false

/-- The value of the numbers before the last, as the octets in front. -/
def front (numbers : List Nat) : Nat :=
  numbers.foldl (fun value n => 256 * value + n) 0

def ofHost? (host : List Char) : Option Nat := do
  let numbers ← (parts host).mapM number?
  let last ← numbers.getLast?
  let before := numbers.dropLast
  let room := Nat.pow 256 (4 - before.length)
  if numbers.length ≤ 4 ∧ (∀ n ∈ before, n < 256) ∧ last < room then
    some (front before * room + last)
  else none

def text (address : Nat) : String :=
  String.intercalate "." ([24, 16, 8, 0].map fun shift =>
    toString (address / Nat.pow 2 shift % 256))

end JsonExtract.Url.Ipv4
