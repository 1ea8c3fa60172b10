import JsonExtract.Http.ContentType
import JsonExtract.Http.Network
import JsonExtract.Http.Status
import JsonExtract.Job
import JsonExtract.Json.Reader
import JsonExtract.Url.Relative
import JsonExtract.Url.Requestable

/-!
# Exchanges

An exchange consists of the calls that a client makes, in order, and of the way it ends.  A
response may send the client elsewhere, but only so many times; nothing is tried twice.  One time
is allowed for the exchange as a whole, from the first call to the end of the last body.
-/

namespace JsonExtract.Http

/-! ## Endings -/

inductive Ending where
  /-- The client holds the head of a response that it does not follow elsewhere, with some time
  left. -/
  | answered (response : Response) (left : Nat)
  | broken (text : String)
  /-- The time was up. -/
  | overdue
deriving DecidableEq, Repr

/-- The calls of an exchange, in order, and its ending. -/
structure Exchange where
  calls : List Call
  ending : Ending
deriving DecidableEq, Repr

namespace Exchange

def without (ending : Ending) : Exchange := ⟨[], ending⟩

def after (call : Call) (exchange : Exchange) : Exchange :=
  { exchange with calls := call :: exchange.calls }

end Exchange

/-- The document that a response brings in the time that is left of what was allowed.  Nobody
waits for the body of a response with another status than success. -/
def Response.document (allowed left : Nat) (response : Response) : Except Problem Json :=
  if !Status.isSuccess response.status then
    .error (.httpStatus response.status (Status.phrase response.status))
  else
    match response.body.before? left with
    | none => .error (.timeout allowed)
    | some (none, _) =>
      .error (.transport "Failed to read response: error decoding response body")
    | some (some body, _) =>
      let text := (ContentType.encodingOf response.fields).decode body
      (Json.ofText (String.ofList text)).mapError .invalidJson

/-- The document that an exchange brings, if it may take so many milliseconds. -/
def Ending.document (allowed : Nat) : Ending → Except Problem Json
  | .answered response left => response.document allowed left
  | .broken text => .error (.transport text)
  | .overdue => .error (.timeout allowed)

/-! ## Being sent elsewhere -/

def Response.location? (response : Response) (place : Url) : Option Url := do
  if !Status.isRedirect response.status then none
  let location ← Field.find? "location" response.fields
  let next ← (place.join location).toOption
  if next.isRequestable then some next.asRequested else none

/-- Fields that only the server they were meant for may see. -/
def privateFields : List String :=
  ["authorization", "cookie", "cookie2", "proxy-authorization", "www-authenticate"]

def bodyFields : List String :=
  ["content-encoding", "content-length", "content-type", "transfer-encoding"]

/-- The fields that all calls share after a response.  One status says that what follows is
about something else than a body that may have been sent. -/
def sharedAfter (response : Response) (fields : List Field) : List Field :=
  if response.status = 303 then Field.without bodyFields fields else fields

def followingFields (previous next : Url) (fields : List Field) : List Field :=
  let same := (Endpoint.ofUrl previous).host = (Endpoint.ofUrl next).host ∧
    (Endpoint.ofUrl previous).port = (Endpoint.ofUrl next).port
  let kept := if same then fields else Field.without privateFields fields
  if previous.scheme = "https" ∧ next.scheme = "http" then kept
  else Field.replace kept ⟨"referer", previous.withoutCredentials.text⟩

def failure (what : String) (url : Url) : String :=
  what ++ " for url (" ++ url.text ++ ")"

/-- The call about an address.  It has no body, and so nothing is said about how one comes. -/
def Call.ofUrl (url : Url) (fields : List Field) : Call :=
  ⟨Endpoint.ofUrl url, url.target, Field.without ["transfer-encoding"] fields⟩

/-- Calls a server and follows its answer in the time that is left, at most `budget` times.  The
exchange started at the address `first`, and all of its calls share some fields. -/
def follow (network : Network) (first : Url) :
    Nat → Nat → List Field → Url → List Field → Exchange
  | budget, left, shared, url, fields =>
    let call := Call.ofUrl url fields
    match (network call).before? left with
    | none => .without .overdue
    | some (.refused, _) => .without (.broken (failure "error sending request" first))
    | some (.taken answer, left) =>
      match answer.before? left with
      | none => .after call (.without .overdue)
      | some (.hangUp, _) =>
        .after call (.without (.broken (failure "error sending request" first)))
      | some (.response response, left) =>
        match response.location? url, budget with
        | none, _ => .after call (.without (.answered response left))
        | some _, 0 => .after call (.without (.broken (failure "error following redirect" url)))
        | some next, budget + 1 =>
          if next.isWeb then
            let shared := sharedAfter response shared
            let fields := followingFields url next shared
            .after call (follow network first budget left shared next fields)
          else .after call (.without (.broken (failure "builder error" next)))

end JsonExtract.Http
