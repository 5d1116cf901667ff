import Pacts.Broker.Error
import Pacts.Placeholder
import Pacts.Text.Base64
import Pacts.Text.Bytes
import Pacts.Text.Quoted

/-!
# Credentials

The settings of the credentials hold a scheme, a user with a password and a token, all of which may
hold placeholders.  `Credentials.ofSettings` makes credentials out of them.  A scheme comes first,
then a user, then a token; the scheme `none`, as it is written in the settings, means that nothing
is sent.

Credentials are handed on as a list of texts, the options, and made out of such a list again; what
is sent with a request, `Credentials.header?`, is the same for both (`header?_ofOptions_options`).

The shown form keeps the password and the token to itself.
-/

set_option autoImplicit false

namespace Pacts

/-- The settings of the credentials. -/
structure CredentialSettings where
  scheme : Option String
  username : String
  password : String
  token : String
  deriving DecidableEq, Repr

namespace CredentialSettings

/-- The settings in which nothing is set. -/
def blank : CredentialSettings := ⟨none, "", "", ""⟩

end CredentialSettings

/-- What a broker is told about who is asking. -/
inductive Credentials where
  | anonymous
  | basic (username password : String)
  | bearer (token : String)
  | explicit (scheme username password : String)
  deriving DecidableEq, Repr

namespace Credentials

/-- The name of the scheme with a user and a password. -/
def basicScheme : String := "basic"

/-- The name of the scheme with a token. -/
def bearerScheme : String := "bearer"

/-- Another name for the scheme with a user and a password. -/
def legacyScheme : String := "legacy"

/-- The credentials of settings that are there, with placeholders looked up. -/
def ofSettings (lookup : Lookup) (settings : CredentialSettings) :
    Except BrokerError Credentials :=
  let scheme := settings.scheme.getD ""
  if sameLetters scheme "none" then .ok .anonymous
  else
    let scheme := expand lookup scheme
    let username := expand lookup settings.username
    let password := expand lookup settings.password
    let token := expand lookup settings.token
    if scheme ≠ "" then
      .ok (.explicit (if scheme = legacyScheme then basicScheme else scheme) username password)
    else if username ≠ "" then .ok (.basic username password)
    else if token ≠ "" then .ok (.bearer token)
    else .error .invalidAuthentication

/-- The credentials of settings; without settings nothing is sent. -/
def ofSettings? (lookup : Lookup) : Option CredentialSettings → Except BrokerError Credentials
  | none => .ok .anonymous
  | some settings => ofSettings lookup settings

/-- The name of the scheme. -/
def scheme : Credentials → String
  | .anonymous => ""
  | .basic _ _ => basicScheme
  | .bearer _ => bearerScheme
  | .explicit scheme _ _ => scheme

/-- The credentials as a list of texts. -/
def options : Credentials → List String
  | .anonymous => []
  | .basic username password => [basicScheme, username, password]
  | .bearer token => [bearerScheme, token]
  | .explicit scheme username password => [scheme, username, password]

/-- The credentials of a list of texts; a list of another shape stands for none. -/
def ofOptions : List String → Credentials
  | [scheme, token] => if sameLetters scheme bearerScheme then .bearer token else .anonymous
  | [scheme, username, password] =>
    if sameLetters scheme basicScheme then .basic username password
    else .explicit scheme username password
  | _ => .anonymous

/-- The header of a user and a password. -/
def basicHeader (username password : String) : String :=
  "Basic " ++ String.ofList (Text.base64 (Text.utf8 (username.toList ++ ':' :: password.toList)))

/-- The header of a token. -/
def bearerHeader (token : String) : String := "Bearer " ++ token

/-- What is sent with a request; nothing when the scheme is not known. -/
def header? : Credentials → Option String
  | .anonymous => none
  | .basic username password => some (basicHeader username password)
  | .bearer token => some (bearerHeader token)
  | .explicit scheme username password =>
    if sameLetters scheme basicScheme then some (basicHeader username password)
    else if sameLetters scheme bearerScheme then some (bearerHeader username)
    else none

/-- What stands in the place of a secret. -/
def redacted : String := quoted "<redacted>"

/-- The credentials as they are shown. -/
def shown : Credentials → String
  | .anonymous => "None"
  | .basic username _ =>
    showRecord "Basic" [("username", quoted username), ("password", redacted)] false
  | .bearer _ => showRecord "Bearer" [("token", redacted)] false
  | .explicit scheme username _ =>
    showRecord "Explicit"
      [("scheme", quoted scheme), ("username", quoted username), ("password", redacted)] false

/-- Handing the credentials on as options does not change what is sent. -/
theorem header?_ofOptions_options (c : Credentials) :
    (ofOptions c.options).header? = c.header? := by
  cases c with
  | anonymous => rfl
  | basic u p => simp [options, ofOptions, header?]
  | bearer t => simp [options, ofOptions, header?]
  | explicit s u p =>
    by_cases h : sameLetters s basicScheme = true <;> simp [options, ofOptions, header?, h]

end Credentials

end Pacts
