import JsonExtract.Selector.Fields
import JsonExtract.Specification.Variables

/-!
# Pick specifications

A specification describes one job: the address to fetch, the headers to send, the time
allowed, whether numeric strings become numbers, and the selectors.  References to variables
are replaced in the address and in the values of headers, and nowhere else.
-/

namespace JsonExtract

/-- The time in milliseconds that an exchange may take unless another is given. -/
def defaultTimeout : Nat := 15000

structure Specification where
  url : String
  headers : KeyedMap String
  timeout : Option Nat
  coerces : Bool
  selectors : List Selector

namespace Specification

def allowedTime (specification : Specification) : Nat :=
  specification.timeout.getD defaultTimeout

/-- The variables that the specification refers to, in the order in which they are looked up. -/
def references (specification : Specification) : List String :=
  Variables.references specification.url.toList ++
    specification.headers.entries.flatMap fun entry => Variables.references entry.2.toList

/-- The specification with its references replaced, first those of the address and then
those of the headers in their order. -/
def expand (lookup : Variables.Lookup) (specification : Specification) :
    Except Problem Specification := do
  let url ← Variables.expand lookup specification.url
  let headers ← specification.headers.traverse (Variables.expand lookup)
  return { specification with url := url, headers := headers }

end Specification

end JsonExtract
