import Pacts.Command.Invocation
import Pacts.Load.Settings

/-!
# Flags on top of settings

A flag takes the place of the setting it is about.  The flags of the credentials are put on top of
the credentials in the settings one by one; without any of these flags the settings stay as they
are.
-/

set_option autoImplicit false

namespace Pacts.Command

namespace BrokerCommand

/-- Whether a flag of the credentials is there. -/
def setsCredentials (c : BrokerCommand) : Bool :=
  c.authScheme.isSome || c.username.isSome || c.password.isSome || c.token.isSome

/-- Credentials with the flags on top. -/
def credentials (c : BrokerCommand) (settings : Option CredentialSettings) :
    Option CredentialSettings :=
  if c.setsCredentials then
    let s := settings.getD .blank
    some
      { scheme := c.authScheme.or s.scheme
        username := c.username.getD s.username
        password := c.password.getD s.password
        token := c.token.getD s.token }
  else settings

/-- A list of flags, or else the list in the settings. -/
def orElse (flags settings : List String) : List String := if flags = [] then settings else flags

/-- Settings with the flags on top. -/
def settings (c : BrokerCommand) (s : BrokerSettings) : BrokerSettings :=
  { s with
    host := c.host.getD s.host
    port := c.port.getD s.port
    scheme := c.scheme.getD s.scheme
    tags := orElse c.tags s.tags
    consumers := orElse c.consumers s.consumers
    failIfNone := s.failIfNone && !c.allowEmpty
    credentials := c.credentials s.credentials }

end BrokerCommand

end Pacts.Command
