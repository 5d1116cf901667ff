import Pacts.Broker.Consumers
import Pacts.Proofs.Broker.Conversation
import Pacts.Proofs.Broker.Listing

/-!
# The course of a search

A client finds the consumers of a provider with two requests: for the broker's own document, and
for the listing that a link in it leads to.  That there is nothing at the one or the other URL is
the same as an empty listing.  The tolerance stands in a single place of `Client.consumers`, behind
both requests and behind the reading of the link, so one has to see that it does not reach further
than it should.

* `BrokerError.isComplaint` — the errors that find fault with what a text or a document holds.
  Neither a link nor a listing fails in another way, so what is wrong with a document is never taken
  for a document that is missing.
* `Client.Search` — a search as a relation between what was said and what came of it, with one
  constructor for every way in which it can go, and `Client.ends_consumersOf_iff` for the session.
* `Client.Search.eq_tolerated` — an error among the replies is what the search comes to, unless it
  is that there is nothing.
-/

set_option autoImplicit false

namespace Pacts

open Session (Talk Ends ends_bind_iff ends_bind_done_iff ends_done_iff ends_request_iff)

/-! ## Complaints -/

namespace BrokerError

/-- Whether an error finds fault with what a text or a document holds. -/
def isComplaint : BrokerError → Bool
  | .invalidUrl .. => true
  | .invalidHal .. => true
  | .document _ => true
  | _ => false

theorem isConfiguration_of_isComplaint {e : BrokerError} (h : e.isComplaint = true) :
    e.isConfiguration = false := by
  cases e <;> first | rfl | cases h

theorem ne_notFound_of_isComplaint {e : BrokerError} (h : e.isComplaint = true) (url : String) :
    e ≠ .notFound url := by
  rintro rfl
  cases h

end BrokerError

/-- What comes back does not blame the settings, unless it is that very error. -/
theorem Reply.eq_failed {reply : Reply} {url : String} {e : BrokerError}
    (h : reply.toExcept url = .error e) (hc : e.isConfiguration = true) : reply = .failed e := by
  cases reply <;> cases h <;> first | rfl | cases hc

theorem Links.isComplaint_of_follow {base : Url} {doc : Json} {rel : String}
    {params : List (String × String)} {e : BrokerError}
    (h : Links.follow base doc rel params = .error e) : e.isComplaint = true := by
  rw [follow] at h
  cases hr : href doc rel with
  | error reason =>
    rw [hr] at h
    cases h
    rfl
  | ok link =>
    rw [hr] at h
    simp only at h
    split at h
    · cases h
    · cases h
      rfl

namespace Client

variable {base listing : Url}

theorem EntryFault.isComplaint {entry : Json} {e : BrokerError}
    (h : EntryFault base listing entry e) : e.isComplaint = true := by
  cases h <;> rfl

theorem isComplaint_of_readListing {doc : Json} {e : BrokerError}
    (h : readListing base listing doc = .error e) : e.isComplaint = true := by
  obtain ⟨_, _, _, _, _, hfault⟩ := readListing_eq_error_iff.1 h
  exact hfault.isComplaint

/-! ## Searches -/

variable {c : Client} {provider : String} {tag : Option String}

/-- The request of a client for the document at a URL. -/
def requestFor (c : Client) (url : Url) : Request := ⟨url, c.credentials.header?⟩

/-- What a search comes to when one of its requests ends in an error. -/
def tolerated : BrokerError → Except BrokerError (List Consumer)
  | .notFound _ => .ok []
  | e => .error e

theorem tolerated_eq_error_iff {e e' : BrokerError} :
    tolerated e = .error e' ↔ e = e' ∧ ∀ url, e' ≠ .notFound url := by
  constructor
  · intro h
    cases e <;> cases h <;> exact ⟨rfl, by simp⟩
  · rintro ⟨rfl, h⟩
    cases e <;> first | rfl | exact absurd rfl (h _)

theorem tolerated_eq_ok {e : BrokerError} {ks : List Consumer} (h : tolerated e = .ok ks) :
    ks = [] := by
  cases e <;> cases h
  rfl

theorem exists_notFound_of_tolerated {e : BrokerError} {ks : List Consumer}
    (h : tolerated e = .ok ks) : ∃ url, e = .notFound url := by
  cases e <;> cases h
  exact ⟨_, rfl⟩

/-- Fault with a document is never taken for a document that is missing. -/
theorem tolerated_of_isComplaint {e : BrokerError} (h : e.isComplaint = true) :
    tolerated e = .error e :=
  tolerated_eq_error_iff.2 ⟨rfl, BrokerError.ne_notFound_of_isComplaint h⟩

/-- The consumers that the entries of a listing stand for. -/
def consumersIn (c : Client) (tag : Option String) (entries : List Listed) : List Consumer :=
  entries.map (Consumer.ofListed c.credentials.options (Consumer.listingTag tag))

/-- The link to the listing of a provider, in the broker's own document. -/
def followListing (c : Client) (provider : String) (tag : Option String) (root : Json) :
    Except BrokerError Url :=
  Links.follow c.baseUrl root (listingRel (Consumer.listingTag tag))
    (listingParams provider (Consumer.listingTag tag))

/-- The search for the consumers of a provider: what was said, and what came of it. -/
inductive Search (c : Client) (provider : String) (tag : Option String) :
    Talk → Except BrokerError (List Consumer) → Prop
  | unknown {reply : Reply} {e : BrokerError}
      (index : reply.toExcept c.baseUrl.text = .error e) :
      Search c provider tag [(c.requestFor c.baseUrl, reply)] (tolerated e)
  | unlinked {root : Json} {e : BrokerError}
      (link : c.followListing provider tag root = .error e) :
      Search c provider tag [(c.requestFor c.baseUrl, .document root)] (.error e)
  | unlisted {root : Json} {url : Url} {reply : Reply} {e : BrokerError}
      (link : c.followListing provider tag root = .ok url)
      (listing : reply.toExcept url.text = .error e) :
      Search c provider tag
        [(c.requestFor c.baseUrl, .document root), (c.requestFor url, reply)] (tolerated e)
  | listed {root doc : Json} {url : Url}
      (link : c.followListing provider tag root = .ok url) :
      Search c provider tag
        [(c.requestFor c.baseUrl, .document root), (c.requestFor url, .document doc)]
        ((readListing c.baseUrl url doc).map (c.consumersIn tag))

/-- The link to a listing is looked for with a single request. -/
theorem ends_linkUrl_iff {rel : String} {params : List (String × String)} {talk : Talk}
    {r : Except BrokerError Url} :
    Ends (c.linkUrl rel params) talk r ↔
      ∃ reply, talk = [(c.requestFor c.baseUrl, reply)] ∧
        r = (reply.toExcept c.baseUrl.text).bind fun root =>
          Links.follow c.baseUrl root rel params := by
  rw [linkUrl, get, ends_bind_iff]
  constructor
  · rintro ⟨first, answer, second, h₁, h₂, rfl⟩
    obtain ⟨reply, rfl, rfl⟩ := ends_request_iff.1 h₁
    refine ⟨reply, ?_⟩
    cases hr : reply.toExcept c.baseUrl.text <;>
    · simp only [hr] at h₂
      obtain ⟨rfl, rfl⟩ := ends_done_iff.1 h₂
      exact ⟨rfl, rfl⟩
  · rintro ⟨reply, rfl, rfl⟩
    refine ⟨_, _, [], ends_request_iff.2 ⟨reply, rfl, rfl⟩, ?_, rfl⟩
    cases reply.toExcept c.baseUrl.text <;> simp [Except.bind]

/-- A second request is made when there is a link. -/
theorem ends_listing_iff {rel : String} {params : List (String × String)} {talk : Talk}
    {r : Except BrokerError (Url × Json)} :
    Ends (c.listing rel params) talk r ↔
      (∃ e, Ends (c.linkUrl rel params) talk (.error e) ∧ r = .error e) ∨
      ∃ url first reply, Ends (c.linkUrl rel params) first (.ok url) ∧
        talk = first ++ [(c.requestFor url, reply)] ∧
        r = (reply.toExcept url.text).map fun doc => (url, doc) := by
  rw [listing, ends_bind_iff]
  constructor
  · rintro ⟨first, link, second, h₁, h₂, rfl⟩
    cases link with
    | error e =>
      obtain ⟨rfl, rfl⟩ := ends_done_iff.1 h₂
      rw [List.append_nil]
      exact .inl ⟨e, h₁, rfl⟩
    | ok url =>
      obtain ⟨asked, answer, last, hasked, h₃, rfl⟩ := ends_bind_iff.1 h₂
      obtain ⟨reply, rfl, rfl⟩ := ends_request_iff.1 hasked
      refine .inr ⟨url, first, reply, h₁, ?_⟩
      cases hr : reply.toExcept url.text <;>
      · simp only [hr] at h₃
        obtain ⟨rfl, rfl⟩ := ends_done_iff.1 h₃
        exact ⟨rfl, rfl⟩
  · rintro (⟨e, h, rfl⟩ | ⟨url, first, reply, h, rfl, rfl⟩)
    · exact ⟨talk, _, [], h, .done _, by simp⟩
    · refine ⟨first, _, _, h, ?_, rfl⟩
      refine ends_bind_iff.2 ⟨_, _, [], ends_request_iff.2 ⟨reply, rfl, rfl⟩, ?_, rfl⟩
      dsimp only
      cases reply.toExcept url.text <;> exact .done _

/-- The consumers of what came of the listing. -/
def readConsumers (c : Client) (tag : Option String) :
    Except BrokerError (Url × Json) → Except BrokerError (List Consumer)
  | .error e => tolerated e
  | .ok (url, doc) => (readListing c.baseUrl url doc).map (c.consumersIn tag)

/-- A search says no more than it takes to get the listing. -/
theorem ends_consumersOf_iff_ends_listing {talk : Talk} {r : Except BrokerError (List Consumer)} :
    Ends (c.consumersOf provider tag) talk r ↔
      ∃ l, Ends (c.listing (listingRel (Consumer.listingTag tag))
        (listingParams provider (Consumer.listingTag tag))) talk l ∧ r = c.readConsumers tag l := by
  have h : c.consumersOf provider tag = c.listing (listingRel (Consumer.listingTag tag))
      (listingParams provider (Consumer.listingTag tag)) >>= fun l =>
        .done (c.readConsumers tag l) := by
    rw [consumersOf, listed, consumers, Session.bind_assoc_eq]
    congr 1
    funext l
    match l with
    | .error e => cases e <;> rfl
    | .ok (url, doc) =>
      simp only [Session.pure_eq, Session.bind_done, readConsumers]
      cases readListing c.baseUrl url doc <;> rfl
  rw [h, ends_bind_done_iff]

/-- **The session follows the relation.**  Answered as in `talk`, a search for consumers comes to a
result exactly when it can go that way. -/
theorem ends_consumersOf_iff {talk : Talk} {r : Except BrokerError (List Consumer)} :
    Ends (c.consumersOf provider tag) talk r ↔ Search c provider tag talk r := by
  simp only [ends_consumersOf_iff_ends_listing, ends_listing_iff, ends_linkUrl_iff]
  constructor
  · rintro ⟨l, ⟨e, ⟨reply, rfl, he⟩, rfl⟩ | ⟨url, _, reply', ⟨reply, rfl, hl⟩, rfl, rfl⟩, rfl⟩
    · cases hr : reply.toExcept c.baseUrl.text with
      | error e' =>
        rw [hr] at he
        cases he
        exact .unknown hr
      | ok root =>
        obtain rfl := Reply.toExcept_eq_ok_iff.1 hr
        have hlink : c.followListing provider tag root = .error e := he.symm
        rw [readConsumers, tolerated_of_isComplaint (Links.isComplaint_of_follow hlink)]
        exact .unlinked hlink
    · cases hr : reply.toExcept c.baseUrl.text with
      | error e' =>
        rw [hr] at hl
        cases hl
      | ok root =>
        obtain rfl := Reply.toExcept_eq_ok_iff.1 hr
        have hlink : c.followListing provider tag root = .ok url := hl.symm
        cases hr' : reply'.toExcept url.text with
        | error e => exact .unlisted hlink hr'
        | ok doc =>
          obtain rfl := Reply.toExcept_eq_ok_iff.1 hr'
          exact .listed hlink
  · intro h
    cases h with
    | unknown hi => exact ⟨_, .inl ⟨_, ⟨_, rfl, by rw [hi]; rfl⟩, rfl⟩, rfl⟩
    | unlinked hl =>
      refine ⟨_, .inl ⟨_, ⟨_, rfl, hl.symm⟩, rfl⟩, ?_⟩
      rw [readConsumers, tolerated_of_isComplaint (Links.isComplaint_of_follow hl)]
    | unlisted hl hr =>
      refine ⟨_, .inr ⟨_, _, _, ⟨_, rfl, hl.symm⟩, rfl, rfl⟩, ?_⟩
      rw [hr]
      rfl
    | listed hl => exact ⟨_, .inr ⟨_, _, .document _, ⟨_, rfl, hl.symm⟩, rfl, rfl⟩, rfl⟩

/-- A search asks for the broker's own document, and perhaps for one more. -/
theorem Search.requests {talk : Talk} {r : Except BrokerError (List Consumer)}
    (h : Search c provider tag talk r) :
    ∃ listing : Option Url,
      talk.map (·.1) = c.requestFor c.baseUrl :: (listing.map c.requestFor).toList := by
  cases h with
  | unknown | unlinked => exact ⟨none, rfl⟩
  | @unlisted _ url | @listed _ _ url => exact ⟨some url, rfl⟩

/-- A search whose second request is answered with a document asks for nothing else, and comes to
what stands in the document. -/
theorem Search.of_fetched {talk : Talk} {r : Except BrokerError (List Consumer)}
    (h : Search c provider tag talk r) {asked : Request} {doc : Json}
    (hdoc : talk[1]? = some (asked, .document doc)) :
    talk.map (·.1) = [c.requestFor c.baseUrl, asked] ∧
      r = (readListing c.baseUrl asked.url doc).map (c.consumersIn tag) := by
  cases h with
  | unknown | unlinked => simp at hdoc
  | unlisted _ hr =>
    obtain ⟨rfl, rfl⟩ : _ ∧ _ = Reply.document doc := by simpa using hdoc
    cases hr
  | listed =>
    obtain ⟨rfl, rfl⟩ : _ ∧ _ := by simpa using hdoc
    exact ⟨rfl, rfl⟩

/-! ## The errors of a search -/

/-- An error among the replies is what the search comes to, unless it is that there is nothing. -/
theorem Search.eq_tolerated {talk : Talk} {r : Except BrokerError (List Consumer)}
    (h : Search c provider tag talk r) {x : Request × Reply} (hx : x ∈ talk) {e : BrokerError}
    (he : x.2.toExcept x.1.url.text = .error e) : r = tolerated e := by
  cases h with
  | unknown hi =>
    obtain rfl := List.mem_singleton.1 hx
    cases hi.symm.trans he
    rfl
  | unlinked hl =>
    obtain rfl := List.mem_singleton.1 hx
    cases he
  | unlisted hl hr =>
    rw [List.mem_cons, List.mem_singleton] at hx
    rcases hx with rfl | rfl
    · cases he
    · cases hr.symm.trans he
      rfl
  | listed hl =>
    rw [List.mem_cons, List.mem_singleton] at hx
    rcases hx with rfl | rfl <;> cases he

/-- A search fails for a reply that is an error, or for a document that is not as expected. -/
theorem Search.reply_or_complaint {talk : Talk} {e : BrokerError}
    (h : Search c provider tag talk (.error e)) :
    ((∃ x ∈ talk, x.2.toExcept x.1.url.text = .error e) ∧ ∀ url, e ≠ .notFound url) ∨
      e.isComplaint = true := by
  generalize hr : Except.error e = r at h
  cases h with
  | unknown hi =>
    obtain ⟨rfl, hn⟩ := tolerated_eq_error_iff.1 hr.symm
    exact .inl ⟨⟨_, List.mem_singleton_self _, hi⟩, hn⟩
  | unlinked hl =>
    cases hr
    exact .inr (Links.isComplaint_of_follow hl)
  | unlisted hl hi =>
    obtain ⟨rfl, hn⟩ := tolerated_eq_error_iff.1 hr.symm
    exact .inl ⟨⟨_, List.mem_cons_of_mem _ (List.mem_singleton_self _), hi⟩, hn⟩
  | @listed root doc url hl =>
    cases hd : readListing c.baseUrl url doc with
    | error e' =>
      rw [hd] at hr
      cases hr
      exact .inr (isComplaint_of_readListing hd)
    | ok es =>
      rw [hd] at hr
      cases hr

/-- A search does not fail for something that is missing. -/
theorem Search.ne_notFound {talk : Talk} {e : BrokerError}
    (h : Search c provider tag talk (.error e)) (url : String) : e ≠ .notFound url := by
  rcases h.reply_or_complaint with ⟨-, h⟩ | h
  · exact h url
  · exact BrokerError.ne_notFound_of_isComplaint h url

/-- A search does not blame the settings, unless it was told to. -/
theorem Search.failed_mem {talk : Talk} {e : BrokerError}
    (h : Search c provider tag talk (.error e)) (hc : e.isConfiguration = true) :
    ∃ r, (r, .failed e) ∈ talk := by
  rcases h.reply_or_complaint with ⟨⟨⟨r, reply⟩, hx, he⟩, -⟩ | h
  · obtain rfl := Reply.eq_failed he hc
    exact ⟨r, hx⟩
  · simp [BrokerError.isConfiguration_of_isComplaint h] at hc

/-- Consumers that were found stand in the listing that the broker's own document leads to. -/
theorem Search.listing_of_ne_nil {talk : Talk} {ks : List Consumer}
    (h : Search c provider tag talk (.ok ks)) (hks : ks ≠ []) :
    ∃ root listing doc entries, c.followListing provider tag root = .ok listing ∧
      talk = [(c.requestFor c.baseUrl, .document root), (c.requestFor listing, .document doc)] ∧
      readListing c.baseUrl listing doc = .ok entries ∧ ks = c.consumersIn tag entries := by
  generalize hr : Except.ok ks = r at h
  cases h with
  | unknown hi => exact absurd (tolerated_eq_ok hr.symm) hks
  | unlinked hl => cases hr
  | unlisted hl hi => exact absurd (tolerated_eq_ok hr.symm) hks
  | @listed root doc url hl =>
    cases hd : readListing c.baseUrl url doc with
    | error e =>
      rw [hd] at hr
      cases hr
    | ok entries =>
      rw [hd] at hr
      cases hr
      exact ⟨root, url, doc, entries, hl, rfl, hd, rfl⟩

end Client

end Pacts
