import JsonExtract.Specification.Basic

/-!
# Jobs

A job fetches one document and picks values from it.  How a document is fetched is left to a
transport; whatever goes wrong there is passed on as it is, and nothing is tried twice.
-/

namespace JsonExtract

structure Request where
  url : String
  headers : KeyedMap String
  /-- The time in milliseconds that the whole exchange may take. -/
  timeout : Nat

/-- Answers requests with documents. -/
abbrev Transport := Request → Except Problem Json

structure Job where
  request : Request
  selectors : List Selector
  coerces : Bool

namespace Job

/-- What the job picks, given the answer to its request. -/
def finish (job : Job) (reply : Except Problem Json) : Except Problem Picked :=
  reply.map fun document => evaluate job.selectors document job.coerces

def run (job : Job) (transport : Transport) : Except Problem Picked :=
  job.finish (transport job.request)

def ofSpecification (specification : Specification) : Job :=
  ⟨⟨specification.url, specification.headers, specification.allowedTime⟩,
    specification.selectors, specification.coerces⟩

end Job

end JsonExtract
