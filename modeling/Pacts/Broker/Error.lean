import Pacts.Pact.Basic
import Pacts.Url.Basic

/-!
# What goes wrong with a broker

Either the settings do not make sense, or the broker cannot be reached, or its answer is not what
was asked for.  The settings are at fault exactly when `isConfiguration` holds.
-/

set_option autoImplicit false

namespace Pacts

/-- Why something could not be had from a broker. -/
inductive BrokerError where
  /-- The setting of the host stands for nothing. -/
  | invalidHost (setting : String)
  /-- The setting of the port does not stand for digits. -/
  | invalidPort (setting : String)
  /-- The settings of the credentials stand for nothing. -/
  | invalidAuthentication
  /-- A text is not a URL. -/
  | invalidUrl (url : String) (defect : Url.Defect)
  /-- There was no answer. -/
  | transport (url problem : String)
  /-- There is nothing at the URL. -/
  | notFound (url : String)
  /-- The answer has another status than success. -/
  | requestFailed (url : String) (status : Nat)
  /-- The answer is not the document that was expected. -/
  | invalidHal (url reason : String)
  /-- The answer is not a pact. -/
  | document (error : ReadError)
  deriving DecidableEq, Repr

namespace BrokerError

/-- The wording of an error. -/
def message : BrokerError → String
  | .invalidHost setting =>
    "Invalid pact broker host specified ('" ++ setting ++
      "'). Please provide a valid host or specify the system property 'pactbroker.host'."
  | .invalidPort setting =>
    "Invalid pact broker port specified ('" ++ setting ++
      "'). Please provide a valid port number or specify the system property 'pactbroker.port'."
  | .invalidAuthentication =>
    "Invalid pact authentication specified. Either username or token must be set."
  | .invalidUrl url defect =>
    "was not able to load pacts from the broker as the broker URL was invalid ('" ++ url ++
      "'): " ++ defect.message
  | .transport url problem => "request to " ++ url ++ " failed: " ++ problem
  | .notFound url => "no HAL document found at " ++ url
  | .requestFailed url status => "request to " ++ url ++ " failed with status " ++ toString status
  | .invalidHal url reason => "invalid HAL response from " ++ url ++ ": " ++ reason
  | .document error => error.message

/-- What an error was caused by, when that is a fact of its own. -/
def cause? : BrokerError → Option String
  | .invalidUrl _ defect => some defect.message
  | .document error => error.cause?
  | _ => none

/-- Whether the settings are at fault, and not the broker. -/
def isConfiguration : BrokerError → Bool
  | .invalidHost _ => true
  | .invalidPort _ => true
  | .invalidAuthentication => true
  | _ => false

end BrokerError

end Pacts
