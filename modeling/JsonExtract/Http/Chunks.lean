import JsonExtract.Http.Field

/-!
# Bodies in chunks

A body may come in chunks.  In front of each chunk stands its length in hexadecimal digits, and
a line end follows it.  A chunk of no length is the last, and lines that are no part of the body
may come behind it before an empty line ends it all.
-/

namespace JsonExtract.Http.Chunks

def lineFeed : UInt8 := 10

def carriageReturn : UInt8 := 13

def semicolon : UInt8 := 59

def isBlank (octet : UInt8) : Bool := octet == 32 || octet == 9

def digitValue? (octet : UInt8) : Option Nat :=
  let n := octet.toNat
  if 48 ≤ n ∧ n < 58 then some (n - 48)
  else if 65 ≤ n ∧ n < 71 then some (n - 55)
  else if 97 ≤ n ∧ n < 103 then some (n - 87)
  else none

/-- What comes next, `length` being the length of a chunk as far as it has been read. -/
inductive State where
  /-- The first digit of a length. -/
  | start
  | length (length : Nat)
  /-- Blanks behind a length. -/
  | blanks (length : Nat)
  /-- What else is said of a chunk. -/
  | extension (length : Nat)
  | lengthFeed (length : Nat)
  /-- This many octets of a chunk and one more. -/
  | content (more : Nat)
  | contentReturn
  | contentFeed
  /-- A line behind the last chunk. -/
  | trailer
  | trailerFeed
  /-- A line behind the last chunk, or the end. -/
  | endReturn
  | endFeed
  | done
deriving DecidableEq, Repr

def lengthLimit : Nat := 0x10000000000000000

namespace State

def afterLength (n : Nat) (octet : UInt8) : Option State :=
  if isBlank octet then some (.blanks n)
  else if octet = semicolon then some (.extension n)
  else if octet = carriageReturn then some (.lengthFeed n)
  else none

/-- What comes after one more octet, unless it cannot stand where it does. -/
def next? : State → UInt8 → Option State
  | .start, octet => (digitValue? octet).map .length
  | .length n, octet =>
    match digitValue? octet with
    | some digit => if 16 * n + digit < lengthLimit then some (.length (16 * n + digit)) else none
    | none => afterLength n octet
  | .blanks n, octet => afterLength n octet
  | .extension n, octet =>
    if octet = carriageReturn then some (.lengthFeed n)
    else if octet = lineFeed then none
    else some (.extension n)
  | .lengthFeed 0, octet => if octet = lineFeed then some .endReturn else none
  | .lengthFeed (more + 1), octet => if octet = lineFeed then some (.content more) else none
  | .content 0, _ => some .contentReturn
  | .content (more + 1), _ => some (.content more)
  | .contentReturn, octet => if octet = carriageReturn then some .contentFeed else none
  | .contentFeed, octet => if octet = lineFeed then some .start else none
  | .trailer, octet => some (if octet = carriageReturn then .trailerFeed else .trailer)
  | .trailerFeed, octet => if octet = lineFeed then some .endReturn else none
  | .endReturn, octet => some (if octet = carriageReturn then .endFeed else .trailer)
  | .endFeed, octet => if octet = lineFeed then some .done else none
  | .done, _ => some .done

def isContent : State → Bool
  | .content _ => true
  | _ => false

def isTrailing : State → Bool
  | .trailer | .trailerFeed | .endReturn | .endFeed => true
  | _ => false

def isExtension : State → Bool
  | .extension _ => true
  | _ => false

end State

/-- The octets of a message, each with the place where it stands. -/
abbrev Trace := List (State × UInt8)

def trace (state : State) : List UInt8 → Option Trace
  | [] => if state = .done then some [] else none
  | octet :: rest => do
    if state = .done then return []
    return (state, octet) :: (← trace (← state.next? octet) rest)

namespace Trace

def octetsIn (trace : Trace) (p : State → Bool) : List UInt8 :=
  (trace.filter (p ·.1)).map (·.2)

def body (trace : Trace) : List UInt8 :=
  trace.octetsIn State.isContent

def trailer (trace : Trace) : List UInt8 :=
  trace.octetsIn State.isTrailing

/-- There are fewer than this many octets about chunks, and fewer behind the last one. -/
def sizeLimit : Nat := 16384

def isModest (trace : Trace) : Bool :=
  ((trace.octetsIn State.isExtension).filter (· ≠ carriageReturn)).length < sizeLimit &&
    trace.trailer.length < sizeLimit

end Trace

end JsonExtract.Http.Chunks
