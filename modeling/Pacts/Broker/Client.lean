import Pacts.Broker.Credentials
import Pacts.Broker.Links
import Pacts.Broker.Session
import Pacts.Text.Blank

/-!
# Asking a broker

A client is bound to the URL of a broker and to credentials.  It finds the listing of the pacts of a
provider through a link in the document at that URL, and it reads the consumers out of the listing
and the pacts that the consumers' links lead to.

A broker that does not know the provider answers that there is nothing; the listing is then taken to
be empty.
-/

set_option autoImplicit false

namespace Pacts

/-- An entry of a listing. -/
structure Listed where
  name : String
  /-- The URL of the pact. -/
  href : String
  deriving DecidableEq, Repr

/-- A broker, and who is asking it. -/
structure Client where
  baseUrl : Url
  credentials : Credentials
  deriving DecidableEq, Repr

namespace Client

/-- The link to the listing of the latest pacts of a provider. -/
def latestRel : String := "pb:latest-provider-pacts"

/-- The link to the listing of the latest pacts of a provider with a tag. -/
def taggedRel : String := "pb:latest-provider-pacts-with-tag"

/-- The link under which a listing holds its pacts. -/
def pactsRel : String := "pacts"

/-- The client of settings of the credentials. -/
def ofSettings (lookup : Lookup) (baseUrl : Url) (settings : Option CredentialSettings) :
    Except BrokerError Client := do
  let credentials ← Credentials.ofSettings? lookup settings
  return ⟨baseUrl, credentials⟩

/-- The client as it is shown. -/
def shown (c : Client) : String :=
  showRecord "BrokerClient"
    [("base_url", quoted c.baseUrl.text), ("auth", c.credentials.shown)] true

/-- Asks for a document in the name of the client. -/
def get (c : Client) (url : Url) : Session (Except BrokerError Json) :=
  Session.request ⟨url, c.credentials.header?⟩

/-- The URL that a link of the broker's own document leads to. -/
def linkUrl (c : Client) (rel : String) (params : List (String × String)) :
    Session (Except BrokerError Url) := do
  match ← c.get c.baseUrl with
  | .error e => return .error e
  | .ok root => return Links.follow c.baseUrl root rel params

/-- A text that is not blank in a member of an entry. -/
def entryField (listing : Url) (entry : Json) (key : String) : Except BrokerError String :=
  match (entry.get? key).bind Json.str? with
  | some text =>
    if isBlankString text then missing else .ok text
  | none => missing
where
  /-- The complaint about an entry without the member. -/
  missing : Except BrokerError String :=
    .error (.invalidHal listing.text ("pact link without " ++ key ++ ": " ++ entry.compact))

/-- What an entry of a listing stands for. -/
def readEntry (base listing : Url) (entry : Json) : Except BrokerError Listed := do
  let name ← entryField listing entry "name"
  let href ← entryField listing entry "href"
  match Url.resolve base href with
  | .ok url => return ⟨name, url.text⟩
  | .error defect => throw (.invalidUrl href defect)

/-- The entries of a listing, or the complaint about the first that is none. -/
def readListing (base listing : Url) (doc : Json) : Except BrokerError (List Listed) :=
  (Links.entries doc pactsRel).mapM (readEntry base listing)

/-- A listing with its URL. -/
def listing (c : Client) (rel : String) (params : List (String × String)) :
    Session (Except BrokerError (Url × Json)) := do
  match ← c.linkUrl rel params with
  | .error e => return .error e
  | .ok url =>
    match ← c.get url with
    | .error e => return .error e
    | .ok doc => return .ok (url, doc)

/-- The entries of the listing that a link leads to. -/
def consumers (c : Client) (rel : String) (params : List (String × String)) :
    Session (Except BrokerError (List Listed)) := do
  match ← c.listing rel params with
  | .error (.notFound _) => return .ok []
  | .error e => return .error e
  | .ok (url, doc) => return readListing c.baseUrl url doc

/-- The parameters of a listing, with or without a tag. -/
def listingParams (provider : String) : Option String → List (String × String)
  | none => [("provider", provider)]
  | some tag => [("provider", provider), ("tag", tag)]

/-- The link to a listing, with or without a tag. -/
def listingRel : Option String → String
  | none => latestRel
  | some _ => taggedRel

/-- The entries of the listing of a provider, with or without a tag. -/
def listed (c : Client) (provider : String) (tag : Option String) :
    Session (Except BrokerError (List Listed)) :=
  c.consumers (listingRel tag) (listingParams provider tag)

/-- The text of the URL of the listing of a provider, with or without a tag. -/
def listingUrl (c : Client) (provider : String) (tag : Option String) :
    Session (Except BrokerError String) := do
  match ← c.linkUrl (listingRel tag) (listingParams provider tag) with
  | .error e => return .error e
  | .ok url => return .ok url.text

/-- The pact at a URL, asked for in the name that options stand for. -/
def pactAt (href : String) (options : List String) : Session (Except BrokerError Pact) :=
  match Url.parse href with
  | .error defect => .done (.error (.invalidUrl href defect))
  | .ok url => do
    match ← Session.request ⟨url, (Credentials.ofOptions options).header?⟩ with
    | .error e => return .error e
    | .ok doc => return (Pact.ofJson doc href).mapError .document

end Client

end Pacts
