import JsonExtract.Http.Field
import JsonExtract.Url.Basic

/-!
# Networks

A network is all the servers that a client may call.  It answers every call by itself, so it
is a function from calls to replies.  All that comes from a server takes its time: first the
server takes the call, then the head of its answer comes, and at last the end of the body.
-/

namespace JsonExtract.Http

structure Endpoint where
  scheme : String
  host : Url.Host
  port : Nat
deriving DecidableEq, Repr

def Endpoint.ofUrl (url : Url) : Endpoint :=
  let usual := (Url.usualPort? url.scheme).getD 0
  match url.authority with
  | some authority => ⟨url.scheme, authority.host, authority.port.getD usual⟩
  | none => ⟨url.scheme, .named "", usual⟩

structure Call where
  endpoint : Endpoint
  /-- The path and the query. -/
  target : String
  fields : List Field
deriving DecidableEq, Repr

/-! ## Time -/

/-- Something that comes after so many milliseconds, if it ever comes. -/
inductive Arrival (α : Type) where
  | after (delay : Nat) (what : α)
  | never
deriving DecidableEq, Repr

/-- What comes while there is time left, and the time that is left then. -/
def Arrival.before? {α : Type} (left : Nat) : Arrival α → Option (α × Nat)
  | .after delay what => if delay < left then some (what, left - delay) else none
  | .never => none

/-! ## Replies -/

structure Response where
  status : Nat
  fields : List Field
  /-- The end of the body, when the head is there.  Nothing has come in good order if the server
  hangs up before the end. -/
  body : Arrival (Option (List UInt8))
deriving DecidableEq, Repr

inductive Answer where
  /-- The server hangs up before the end of a readable head. -/
  | hangUp
  | response (response : Response)
deriving DecidableEq, Repr

inductive Reply where
  /-- There is no such server. -/
  | refused
  /-- The server takes the call, and answers it some time later. -/
  | taken (answer : Arrival Answer)
deriving DecidableEq, Repr

namespace Reply

def silence : Reply := .taken .never

def hangUp : Reply := .taken (.after 0 .hangUp)

end Reply

abbrev Network := Call → Arrival Reply

end JsonExtract.Http
