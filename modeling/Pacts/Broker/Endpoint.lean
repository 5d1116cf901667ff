import Pacts.Broker.Error
import Pacts.Placeholder
import Pacts.Url.Parse

/-!
# Where a broker is

The settings of a scheme, a host and a port stand for an endpoint once their placeholders are looked
up and the blanks around them are gone.  The host must not be empty, and the port is empty or made
of digits.  Whether all of it makes up a URL is seen when the URL is asked for.
-/

set_option autoImplicit false

namespace Pacts

/-- Where a broker is. -/
structure Endpoint where
  scheme : String
  host : String
  /-- The port, a text of digits. -/
  port : Option String
  deriving DecidableEq, Repr

namespace Endpoint

/-- The endpoint of its settings. -/
def ofSettings (lookup : Lookup) (scheme host port : String) : Except BrokerError Endpoint :=
  let s := trimmed (expand lookup scheme)
  let h := trimmed (expand lookup host)
  let p := trimmed (expand lookup port)
  if h = "" then .error (.invalidHost host)
  else if p ≠ "" ∧ !p.toList.all Char.isDigit then .error (.invalidPort port)
  else .ok ⟨s, h, if p = "" then none else some p⟩

/-- The scheme and the host. -/
def base (e : Endpoint) : String := e.scheme ++ "://" ++ e.host

/-- The endpoint as it is shown. -/
def text (e : Endpoint) : String :=
  match e.port with
  | none => e.base
  | some port => e.base ++ ":" ++ port

/-- The number that digits stand for. -/
def portNumber (port : String) : Nat := (Url.digitsValue? 10 port.toList).getD 0

/-- The URL of the broker. -/
def url (e : Endpoint) : Except BrokerError Url :=
  match Url.parse e.base with
  | .error defect => .error (.invalidUrl e.base defect)
  | .ok u => match e.port with
    | none => .ok u
    | some port =>
      if 65535 < portNumber port then .error (.invalidUrl e.text .port)
      else match u.withPort? (portNumber port) with
        | some u => .ok u
        | none => .error (.invalidUrl e.text .port)

end Endpoint

end Pacts
