import Pacts.Broker.Credentials
import Pacts.Broker.Session
import Pacts.Http.Header

/-!
# What is sent over HTTP

A request becomes a question to the host and the port of its URL.  Who is asking is said by the
credentials of the request, or else by the user and the password in the URL.

Not every request can be sent.  The scheme has to be `http`, who is asking has to be said in a
header value, and when there is no time to wait, the time is up before anything is sent.
-/

set_option autoImplicit false

namespace Pacts.Http

/-- What is sent, and where to. -/
structure Question where
  host : String
  port : Nat
  /-- The path and the query. -/
  target : String
  authorization : Option String
  deriving DecidableEq, Repr

namespace Question

/-- What can be read. -/
def accept : String := "application/hal+json, application/json"

/-- The header `Content-Type` of every question. -/
def contentType : String := "application/json"

/-- The path and the query of a URL; an empty query is left away. -/
def targetOf (u : Url) : String :=
  match u.query with
  | none => u.path.text
  | some q => if q = "" then u.path.text else u.path.text ++ "?" ++ q

/-- Who is asking, by the credentials of a request or by its URL. -/
def authorizationOf (r : Request) : Option String :=
  match r.authorization with
  | some value => some value
  | none =>
    let password := r.url.password.getD ""
    if r.url.username = "" ∧ password = "" then none
    else some (Credentials.basicHeader r.url.username password)

/-- The question of a request; `timeout` is the time to wait in seconds. -/
def ofRequest (timeout : Option Nat) (r : Request) : Except String Question :=
  if r.url.scheme ≠ "http" then .error ("unknown scheme '" ++ r.url.scheme ++ "'")
  else if timeout = some 0 then .error "timed out connecting"
  else
    let authorization := authorizationOf r
    if authorization.any fun value => !isHeaderValue value then .error "bad header"
    else .ok ⟨r.url.host.getD "", r.url.effectivePort?.getD 80, targetOf r.url, authorization⟩

/-- The first line of a question. -/
def line (q : Question) : String := "GET " ++ q.target ++ " HTTP/1.1"

/-- The headers of a question. -/
def headers (q : Question) : List (String × String) :=
  [("Accept", accept), ("Content-Type", contentType)] ++
    match q.authorization with
    | some value => [("Authorization", value)]
    | none => []

end Question

end Pacts.Http
