import Pacts.Broker.Consumers
import Pacts.Proofs.Broker.Conversation
import Pacts.Proofs.Broker.Listing

/-!
# What a client gets to know

A broker that always gives the same answer to the same request can be read like a table.  This file
says what a client reads out of it without any mention of a session, and that this is the result of
the client's sessions, together with the requests that they make.

* `Client.listingLink` and `Client.found` — the link to a listing, and the consumers in it.
* `Client.result_consumersOf`, `Client.requests_consumersOf` — a search for consumers finds these,
  by a request for the broker's own document and, if there is a link in it, one for the listing.
* `Client.result_shownListingUrl` — what is told of the place where the search went.
* `Consumer.pact` and `Client.result_pactAt` — the pact of a consumer.
* `Client.mem_found` — every consumer that is found stands in a document of the broker.
-/

set_option autoImplicit false

namespace Pacts

/-! ## Reading the table -/

section Table

variable (world : Request → Reply)

namespace Client

variable (c : Client) (provider : String) (tag : Option String)

/-- What the client is answered at a URL. -/
def answer (url : Url) : Except BrokerError Json :=
  (world ⟨url, c.credentials.header?⟩).toExcept url.text

/-- The link to the listing of a pass, in the broker's own document. -/
def listingLink : Except BrokerError Url :=
  (c.answer world c.baseUrl).bind fun root =>
    Links.follow c.baseUrl root (listingRel (Consumer.listingTag tag))
      (listingParams provider (Consumer.listingTag tag))

/-- The consumers of the listing, in its order; none when there is no listing. -/
def found : Except BrokerError (List Consumer) :=
  match (c.listingLink world provider tag).bind fun url =>
      (c.answer world url).map fun doc => (url, doc) with
  | .error (.notFound _) => .ok []
  | .error e => .error e
  | .ok (url, doc) =>
    (readListing c.baseUrl url doc).map fun entries =>
      entries.map (Consumer.ofListed c.credentials.options (Consumer.listingTag tag))

end Client

/-- The pact of a consumer. -/
def Consumer.pact (k : Consumer) : Except BrokerError Pact :=
  match Url.parse k.href with
  | .error defect => .error (.invalidUrl k.href defect)
  | .ok url =>
    ((world ⟨url, (Credentials.ofOptions k.credentials).header?⟩).toExcept url.text).bind fun doc =>
      (Pact.ofJson doc k.href).mapError .document

end Table

/-! ## Searches -/

variable {world : Request → Reply}

namespace Client

variable {c : Client} {provider : String} {tag : Option String}

@[simp]
theorem result_get (url : Url) : (c.get url).result world = c.answer world url := rfl

@[simp]
theorem requests_get (url : Url) :
    (c.get url).requests world = [⟨url, c.credentials.header?⟩] := rfl

theorem requests_linkUrl (rel : String) (params : List (String × String)) :
    (c.linkUrl rel params).requests world = [⟨c.baseUrl, c.credentials.header?⟩] := by
  rw [linkUrl, Session.requests_bind, requests_get, result_get]
  cases c.answer world c.baseUrl <;> rfl

theorem result_linkUrl :
    (c.linkUrl (listingRel (Consumer.listingTag tag))
      (listingParams provider (Consumer.listingTag tag))).result world =
        c.listingLink world provider tag := by
  rw [linkUrl, Session.result_bind, result_get, listingLink]
  cases c.answer world c.baseUrl <;> rfl

theorem result_listing :
    (c.listing (listingRel (Consumer.listingTag tag))
      (listingParams provider (Consumer.listingTag tag))).result world =
        (c.listingLink world provider tag).bind fun url =>
          (c.answer world url).map fun doc => (url, doc) := by
  rw [listing, Session.result_bind, result_linkUrl]
  cases c.listingLink world provider tag with
  | error e => rfl
  | ok url =>
    simp only [Session.result_bind, result_get, Except.bind]
    cases c.answer world url <;> rfl

/-- The listing is asked for when there is a link to it. -/
theorem requests_listing :
    (c.listing (listingRel (Consumer.listingTag tag))
      (listingParams provider (Consumer.listingTag tag))).requests world =
        ⟨c.baseUrl, c.credentials.header?⟩ ::
          match c.listingLink world provider tag with
          | .ok url => [⟨url, c.credentials.header?⟩]
          | .error _ => [] := by
  rw [listing, Session.requests_bind, requests_linkUrl, result_linkUrl]
  cases c.listingLink world provider tag with
  | error e => rfl
  | ok url =>
    simp only [Session.requests_bind, requests_get, result_get]
    cases c.answer world url <;> rfl

theorem result_consumersOf :
    (c.consumersOf provider tag).result world = c.found world provider tag := by
  rw [consumersOf, listed, consumers, Session.result_bind, Session.result_bind, result_listing,
    found]
  generalize (c.listingLink world provider tag).bind _ = listing
  match listing with
  | .error e => cases e <;> rfl
  | .ok (url, doc) =>
    simp only [Session.pure_eq, Session.result_done]
    cases readListing c.baseUrl url doc <;> rfl

theorem requests_consumersOf :
    (c.consumersOf provider tag).requests world = ⟨c.baseUrl, c.credentials.header?⟩ ::
      match c.listingLink world provider tag with
      | .ok url => [⟨url, c.credentials.header?⟩]
      | .error _ => [] := by
  rw [consumersOf, listed, consumers, Session.requests_bind, Session.requests_bind,
    Session.result_bind, result_listing, requests_listing]
  generalize (c.listingLink world provider tag).bind _ = listing
  match listing with
  | .error e => cases e <;> simp
  | .ok (url, doc) =>
    simp only [Session.pure_eq, Session.result_done, Session.requests_done]
    cases readListing c.baseUrl url doc <;> simp

/-- A consumer that is found stands in a document of the broker. -/
theorem mem_found {ks : List Consumer} (h : c.found world provider tag = .ok ks) {k : Consumer}
    (hk : k ∈ ks) :
    ∃ r doc, world r = .document doc ∧ ∃ entry ∈ Links.entries doc pactsRel, ∃ href url,
      (entry.get? "href").bind Json.str? = some href ∧ Url.resolve c.baseUrl href = .ok url ∧
        k.href = url.text := by
  rw [found] at h
  cases hl : c.listingLink world provider tag with
  | error e =>
    rw [hl] at h
    cases e <;> cases h
    cases hk
  | ok url =>
    rw [hl] at h
    cases hg : c.answer world url with
    | error e =>
      simp only [hg, Except.bind, Except.map] at h
      cases e <;> cases h
      cases hk
    | ok doc =>
      simp only [hg, Except.bind, Except.map] at h
      cases hr : readListing c.baseUrl url doc with
      | error e =>
        rw [hr] at h
        cases h
      | ok es =>
        rw [hr] at h
        cases h
        obtain ⟨e, he, rfl⟩ := List.mem_map.1 hk
        obtain ⟨entry, hentry, hread⟩ := mem_readListing hr he
        obtain ⟨href, target, hhref, htarget, htext⟩ := readEntry_eq_ok hread
        exact ⟨_, doc, Reply.toExcept_eq_ok_iff.1 hg, entry, hentry, href, target, hhref, htarget,
          htext⟩

/-! ## The place of the search -/

theorem requests_shownListingUrl :
    (c.shownListingUrl provider tag).requests world = [⟨c.baseUrl, c.credentials.header?⟩] := by
  rw [shownListingUrl, listingUrl, Session.requests_bind, Session.requests_bind,
    Session.result_bind, requests_linkUrl, result_linkUrl]
  cases c.listingLink world provider tag <;> rfl

theorem result_shownListingUrl :
    (c.shownListingUrl provider tag).result world =
      ((c.listingLink world provider tag).toOption.map Url.text).getD Consumer.unknownUrl := by
  rw [shownListingUrl, listingUrl, Session.result_bind, Session.result_bind, result_linkUrl]
  cases c.listingLink world provider tag <;> rfl

/-! ## Pacts -/

theorem result_pactAt (k : Consumer) :
    (pactAt k.href k.credentials).result world = k.pact world := by
  rw [pactAt, Consumer.pact]
  cases Url.parse k.href with
  | error defect => rfl
  | ok url =>
    simp only [Session.result_bind, Session.result_request]
    cases (world ⟨url, (Credentials.ofOptions k.credentials).header?⟩).toExcept url.text <;> rfl

theorem requests_pactAt {k : Consumer} {url : Url} (h : Url.parse k.href = .ok url) :
    (pactAt k.href k.credentials).requests world =
      [⟨url, (Credentials.ofOptions k.credentials).header?⟩] := by
  rw [pactAt, h]
  simp only [Session.requests_bind, Session.requests_request, Session.result_request]
  cases (world ⟨url, (Credentials.ofOptions k.credentials).header?⟩).toExcept url.text <;> rfl

end Client

end Pacts
