import JsonExtract.Http.Credentials
import JsonExtract.Http.Exchange
import JsonExtract.Program

/-!
# Clients

A client turns a request into an exchange with a network.  It checks the address and the
header fields before the first call.
-/

namespace JsonExtract.Http

structure Client where
  /-- What the client calls itself. -/
  name : Option String
  /-- How many times it lets itself be sent elsewhere. -/
  redirects : Nat
  /-- The time in milliseconds within which a server has to take a call. -/
  patience : Option Nat
deriving DecidableEq, Repr

namespace Client

def connectTimeout : Nat := 10000

def standard : Client := ⟨some (Program.name ++ "/" ++ Program.version), 5, some connectTimeout⟩

def nameless : Client := ⟨none, 10, none⟩

/-- The network as a client meets it.  The client gives up on a server that does not take a call
in time, as if there were no such server. -/
def dialling (client : Client) (network : Network) : Network := fun call =>
  match client.patience with
  | none => network call
  | some patience =>
    match (network call).before? patience with
    | some _ => network call
    | none => .after patience .refused

/-- The fields that are sent unless others take their place. -/
def defaults (client : Client) : List Field :=
  ⟨"accept", "*/*"⟩ :: (client.name.map (⟨"user-agent", ·⟩)).toList

/-- The fields that all calls of a request share, `credentials` being what stands for those of
its address. -/
def fieldsOf (client : Client) (credentials : Option String) (request : Request) :
    List Field :=
  let signed := credentials.toList.map (⟨"authorization", ·⟩ : String → Field)
  let given := request.headers.entries.map fun entry => Field.ofText entry.1 entry.2
  Field.withDefaults (signed ++ given) client.defaults

/-- The exchange about an address of the web.  Credentials that can be read are sent in a field
instead of being part of the address. -/
def exchange (client : Client) (network : Network) (request : Request) (url : Url) :
    Exchange :=
  let credentials := url.authority.bind Credentials.ofAuthority?
  let first := if credentials.isSome then url.withoutCredentials else url
  if !request.headers.entries.all fun entry => Field.isSendable entry.1 entry.2 then
    .without (.broken "builder error")
  else if !first.isRequestable then .without (.broken (failure "builder error" first))
  else
    let fields := client.fieldsOf credentials request
    follow (client.dialling network) first client.redirects request.timeout fields
      first.asRequested fields

/-- The calls that a request leads to, and the document that it brings. -/
def fetch (client : Client) (network : Network) (request : Request) :
    List Call × Except Problem Json :=
  match Url.ofWebText request.url with
  | .error problem => ([], .error problem)
  | .ok url =>
    let exchange := client.exchange network request url
    (exchange.calls, exchange.ending.document request.timeout)

def transport (client : Client) (network : Network) : Transport := fun request =>
  (client.fetch network request).2

end Client

end JsonExtract.Http
