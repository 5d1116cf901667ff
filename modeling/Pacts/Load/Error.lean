import Pacts.Broker.Error

/-!
# What goes wrong with a load

A load fails with what the broker or a file fails with, or because there are no pacts, or because a
settings file cannot be read.
-/

set_option autoImplicit false

namespace Pacts

/-- Why pacts could not be loaded. -/
inductive LoadError where
  | broker (error : BrokerError)
  | pact (error : ReadError)
  /-- A provider has no pacts, which the settings take for a failure. -/
  | noPactsFound (provider tag url : String)
  /-- The settings file could not be read. -/
  | settingsIo (path problem : String)
  /-- The settings file does not hold settings. -/
  | settingsParse (path problem : String)
  /-- There is no lookup of this name. -/
  | unknownLookup (name : String)
  deriving DecidableEq, Repr

namespace LoadError

/-- The wording of an error. -/
def message : LoadError → String
  | .broker error => error.message
  | .pact error => error.message
  | .noPactsFound provider tag url =>
    "No consumer pacts were found for provider '" ++ provider ++ "' and tag '" ++ tag ++
      "'. (URL " ++ url ++ ")"
  | .settingsIo path problem => "failed to read loader config at " ++ path ++ ": " ++ problem
  | .settingsParse path problem => "failed to parse loader config at " ++ path ++ ": " ++ problem
  | .unknownLookup name =>
    "unknown value resolver '" ++ name ++ "'; expected 'system', 'env' or 'file:<path>'"

/-- What an error was caused by, when that is a fact of its own. -/
def cause? : LoadError → Option String
  | .broker error => error.cause?
  | .pact error => error.cause?
  | .settingsIo _ problem => some problem
  | .settingsParse _ problem => some problem
  | .noPactsFound .. => none
  | .unknownLookup _ => none

/-- Whether the settings are at fault. -/
def isConfiguration : LoadError → Bool
  | .broker error => error.isConfiguration
  | .settingsIo .. => true
  | .settingsParse .. => true
  | .unknownLookup _ => true
  | .pact _ => false
  | .noPactsFound .. => false

end LoadError

end Pacts
