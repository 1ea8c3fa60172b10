import JsonExtract.Http.Message

/-!
# Sites

A site is a network of one server.  The server has a table of routes, and sends what the route
of a call says.
-/

namespace JsonExtract.Http

/-- What a server replies to calls of one path, the query being part of it. -/
structure Route where
  path : String
  reply : Reply
deriving DecidableEq, Repr

structure Site where
  endpoint : Endpoint
  routes : List Route
deriving DecidableEq, Repr

def notFound : Response := ⟨404, [], .after 0 (some [])⟩

/-- The network of the site alone, which takes every call at once. -/
def Site.network (site : Site) : Network := fun call =>
  if call.endpoint = site.endpoint then
    match site.routes.find? (·.path == call.target) with
    | some route => .after 0 route.reply
    | none => .after 0 (.taken (.after 0 (.response notFound)))
  else .after 0 .refused

/-- What a server sends: a status, fields besides the one about the length of the body, that
length, be it the right one or not, and the body. -/
structure Page where
  status : Nat
  fields : List (String × String)
  length : Nat
  body : List UInt8

namespace Page

def line (name value : String) : String :=
  name ++ ": " ++ value ++ "\r\n"

def head (page : Page) : String :=
  "HTTP/1.1 " ++ toString page.status ++ " " ++ Status.phrase page.status ++ "\r\n" ++
    String.join (page.fields.map fun field => line field.1 field.2) ++
    line "content-length" (toString page.length) ++ "\r\n"

def octets (page : Page) : List UInt8 :=
  Message.octetsOf page.head ++ page.body

def reply (page : Page) : Reply :=
  Message.reply page.octets

end Page

end JsonExtract.Http
