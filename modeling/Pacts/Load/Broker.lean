import Pacts.Broker.Consumers
import Pacts.Broker.Endpoint
import Pacts.Load.Error
import Pacts.Load.Inclusion
import Pacts.Load.Settings
import Pacts.Pact.Registry

/-!
# Pacts from a broker

A load makes one pass for every tag that the settings stand for, or a single pass without a tag when
no tags are set.  A pass finds the consumers of the provider and downloads the pacts of those that
count.

What a pass achieves is its downloads, in order, and the failure that stopped it, if one did.  The
downloads in front of a failure are kept.  That a tag has no pacts is a failure only of the pass
without a tag; a pass with a tag is then skipped.
-/

set_option autoImplicit false

namespace Pacts

/-- What was downloaded, each pact with the name of its consumer in the listing, and what stopped
it. -/
structure Progress where
  downloads : List (String × Pact)
  failure : Option LoadError
  deriving DecidableEq

namespace Progress

/-- Nothing was downloaded, and nothing went wrong. -/
def start : Progress := ⟨[], none⟩

/-- Something went wrong before anything was downloaded. -/
def failed (error : LoadError) : Progress := ⟨[], some error⟩

/-- Downloads in front of others. -/
def after (p : Progress) (downloads : List (String × Pact)) : Progress :=
  { p with downloads := downloads ++ p.downloads }

@[simp]
theorem failure_after (p : Progress) (downloads : List (String × Pact)) :
    (p.after downloads).failure = p.failure := rfl

@[simp]
theorem downloads_after (p : Progress) (downloads : List (String × Pact)) :
    (p.after downloads).downloads = downloads ++ p.downloads := rfl

/-- The downloaded pacts. -/
def pacts (p : Progress) : List Pact := p.downloads.map (·.2)

/-- The registry of the downloads. -/
def registry (p : Progress) : Registry :=
  p.downloads.foldl (fun r (consumer, pact) => r.record consumer pact) .empty

/-- The downloaded pacts, or the failure. -/
def result (p : Progress) : Except LoadError (List Pact) :=
  match p.failure with
  | none => .ok p.pacts
  | some error => .error error

theorem result_eq_ok_iff {p : Progress} {pacts : List Pact} :
    p.result = .ok pacts ↔ p.failure = none ∧ pacts = p.pacts := by
  rw [result]
  cases p.failure <;> simp [eq_comm]

theorem result_eq_error_iff {p : Progress} {e : LoadError} :
    p.result = .error e ↔ p.failure = some e := by
  rw [result]
  cases p.failure <;> simp

end Progress

namespace BrokerSettings

/-- The client that the settings stand for. -/
def client (s : BrokerSettings) (lookup : Lookup) : Except BrokerError Client := do
  let endpoint ← Endpoint.ofSettings lookup s.scheme s.host s.port
  let url ← endpoint.url
  Client.ofSettings lookup url s.credentials

/-- The tags that passes are made for; a pass without a tag when none are set. -/
def passTags (s : BrokerSettings) (lookup : Lookup) : List (Option String) :=
  if s.tags = [] then [none] else (s.tags.flatMap (expandList lookup)).map some

/-- Downloads the pacts of consumers until one fails. -/
def download : List Consumer → Session Progress
  | [] => return .start
  | consumer :: consumers => do
    match ← Client.pactAt consumer.href consumer.credentials with
    | .error e => return .failed (.broker e)
    | .ok pact => return (← download consumers).after [(consumer.name, pact)]

/-- Makes the pass for a tag. -/
def pass (s : BrokerSettings) (lookup : Lookup) (provider : String) (tag : Option String) :
    Session Progress :=
  match s.client lookup with
  | .error e => return .failed (.broker e)
  | .ok client => do
    match ← client.consumersOf provider tag with
    | .error e => return .failed (.broker e)
    | .ok consumers =>
      if s.failIfNone ∧ consumers = [] then
        let url ← client.shownListingUrl provider tag
        return .failed (.noPactsFound provider (tag.getD Consumer.latest) url)
      else download (Inclusion.filter lookup s.consumers consumers)

/-- Whether passes go on after a failure. -/
def tolerates (s : BrokerSettings) : LoadError → Bool
  | .noPactsFound .. => !s.tags.isEmpty
  | _ => false

/-- Makes the passes for tags until one fails. -/
def passes (s : BrokerSettings) (lookup : Lookup) (provider : String) :
    List (Option String) → Session Progress
  | [] => return .start
  | tag :: tags => do
    let first ← s.pass lookup provider tag
    match first.failure with
    | none => return (← passes s lookup provider tags).after first.downloads
    | some e =>
      if s.tolerates e then return (← passes s lookup provider tags).after first.downloads
      else return first

/-- Makes all the passes for a provider. -/
def collect (s : BrokerSettings) (lookup : Lookup) (provider : String) : Session Progress :=
  s.passes lookup provider (s.passTags lookup)

/-- The broker in words. -/
def description (s : BrokerSettings) (lookup : Lookup) : String :=
  let port := expand lookup s.port
  "Pact Broker(" ++ expand lookup s.scheme ++ "://" ++ expand lookup s.host ++
    (if port = "" then "" else ":" ++ port) ++ ")"

end BrokerSettings

/-- A loader keeps the pacts of all its loads. -/
structure BrokerLoader where
  settings : BrokerSettings
  /-- The lookup that takes the place of the one named in the settings. -/
  explicit : Option Lookup
  loaded : Registry

namespace BrokerLoader

/-- A loader that has loaded nothing yet. -/
def ofSettings (settings : BrokerSettings) : BrokerLoader := ⟨settings, none, .empty⟩

/-- The lookup in use; `named` is the one named in the settings. -/
def lookup (l : BrokerLoader) (named : Lookup) : Lookup := l.explicit.getD named

/-- The loader after a load, and the loaded pacts or what went wrong.  Pacts that were downloaded
before something went wrong are kept. -/
def load (l : BrokerLoader) (named : Lookup) (provider : String) :
    Session (BrokerLoader × Except LoadError (List Pact)) := do
  let progress ← l.settings.collect (l.lookup named) provider
  return ({ l with loaded := l.loaded.merge progress.registry }, progress.result)

/-- The pacts of a provider with their registry; the loader keeps none of them. -/
def resolve (l : BrokerLoader) (lookup : Lookup) (provider : String) :
    Session (Except LoadError (List Pact × Registry)) := do
  let progress ← l.settings.collect lookup provider
  return progress.result.map fun pacts => (pacts, progress.registry)

/-- The loader with a lookup that takes the place of the one named in the settings. -/
def withLookup (l : BrokerLoader) (lookup : Lookup) : BrokerLoader :=
  { l with explicit := some lookup }

/-- The loader that takes it for a failure that there are no pacts, or does not. -/
def withFailIfNone (l : BrokerLoader) (fail : Bool) : BrokerLoader :=
  { l with settings := { l.settings with failIfNone := fail } }

/-- The broker in words. -/
def description (l : BrokerLoader) (named : Lookup) : String :=
  l.settings.description (l.lookup named)

/-- The loader as it is shown. -/
def shown (l : BrokerLoader) : String :=
  showRecord "PactBrokerLoader"
    [("config", l.settings.shown), ("explicit_resolver", toString l.explicit.isSome)] true

end BrokerLoader

end Pacts
