import Pacts.Broker.Client

/-!
# The consumers of a provider

The consumers of a provider are those of its latest pacts, or those of its latest pacts with a tag.
No tag, an empty tag and the tag `latest` mean the same.

A consumer carries along the options of the client that found it, so that its pact can be asked for
in the same name later.
-/

set_option autoImplicit false

namespace Pacts

/-- A consumer that has a pact with the provider. -/
structure Consumer where
  name : String
  /-- The URL of the pact. -/
  href : String
  /-- The options of the client that found the consumer. -/
  credentials : List String
  /-- The tag that the consumer was found with. -/
  tag : Option String
  deriving DecidableEq, Repr

namespace Consumer

/-- The tag that means the latest pacts. -/
def latest : String := "latest"

/-- What stands for the URL of a listing that cannot be told. -/
def unknownUrl : String := "Unknown"

/-- Whether a tag means the latest pacts. -/
def isLatest : Option String → Bool
  | none => true
  | some tag => tag == "" || tag == latest

/-- The tag that a listing is asked for with. -/
def listingTag (tag : Option String) : Option String := if isLatest tag then none else tag

/-- The consumer of an entry of a listing. -/
def ofListed (options : List String) (tag : Option String) (entry : Listed) : Consumer :=
  ⟨entry.name, entry.href, options, tag⟩

end Consumer

namespace Client

/-- The consumers of a provider. -/
def consumersOf (c : Client) (provider : String) (tag : Option String) :
    Session (Except BrokerError (List Consumer)) := do
  let tag := Consumer.listingTag tag
  match ← c.listed provider tag with
  | .error e => return .error e
  | .ok entries => return .ok (entries.map (Consumer.ofListed c.credentials.options tag))

/-- The URL of the listing of a provider as far as it can be told. -/
def shownListingUrl (c : Client) (provider : String) (tag : Option String) : Session String := do
  match ← c.listingUrl provider (Consumer.listingTag tag) with
  | .ok url => return url
  | .error _ => return Consumer.unknownUrl

end Client

end Pacts
