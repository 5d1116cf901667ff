import Pacts.Broker.Credentials

/-!
# The settings of a load from a broker

Every text of the settings may hold placeholders, which are looked up when pacts are loaded and not
when the settings are read.  The defaults take the host, the port and the scheme from the lookup.
-/

set_option autoImplicit false

namespace Pacts

/-- The settings of a load from a broker. -/
structure BrokerSettings where
  host : String
  port : String
  scheme : String
  /-- The tags; without tags the latest pacts are loaded. -/
  tags : List String
  /-- The consumers that count; without consumers all of them do. -/
  consumers : List String
  /-- Whether it is a failure that there are no pacts. -/
  failIfNone : Bool
  credentials : Option CredentialSettings
  /-- The name of the lookup. -/
  lookup : Option String
  /-- How long to wait for the broker, in seconds. -/
  timeout : Option Nat
  deriving DecidableEq, Repr

namespace BrokerSettings

/-- The settings that hold where nothing else is set. -/
def default : BrokerSettings where
  host := "${pactbroker.host:}"
  port := "${pactbroker.port:}"
  scheme := "${pactbroker.scheme:http}"
  tags := []
  consumers := []
  failIfNone := true
  credentials := none
  lookup := none
  timeout := none

/-- Something that may be missing, as it is shown. -/
def shownOption {α : Type} (shown : α → String) : Option α → String
  | none => "None"
  | some a => "Some(" ++ shown a ++ ")"

/-- The settings of the credentials as they are shown. -/
def shownCredentials (s : CredentialSettings) : String :=
  showRecord "AuthConfig"
    [("scheme", shownOption quoted s.scheme), ("username", quoted s.username),
      ("password", quoted s.password), ("token", quoted s.token)] false

/-- The settings as they are shown. -/
def shown (s : BrokerSettings) : String :=
  showRecord "BrokerLoaderConfig"
    [("host", quoted s.host), ("port", quoted s.port), ("scheme", quoted s.scheme),
      ("tags", quotedList s.tags), ("consumers", quotedList s.consumers),
      ("fail_if_no_pacts_found", toString s.failIfNone),
      ("authentication", shownOption shownCredentials s.credentials),
      ("value_resolver", shownOption quoted s.lookup),
      ("timeout_secs", shownOption toString s.timeout)] false

end BrokerSettings

end Pacts
