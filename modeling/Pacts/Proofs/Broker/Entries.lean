import Mathlib.Data.List.Forall2
import Pacts.Proofs.Broker.Search

/-!
# What becomes of the entries of a listing

A client finds as many consumers as the listing has entries, in their order, or it fails for the
first entry that does not say who the consumer is and where its pact is.  Two functions have a part
in this: `Links.entries` decides what is an entry, and `Client.readListing` insists on what an entry
has to say.  They do not agree on a list with something else than objects in it.  The one passes
over it, so the other does not get to see it.

* `Links.AreObjects` — the entries of a listing are objects, in a list or a single one on its own.
* `Client.Describes` — a consumer is what an entry says.
* `Client.Search.exists_ok_iff`, `Client.Search.describes` and `Client.Search.error_iff` — what a
  search comes to that has fetched a listing.
* `Client.listing_all_or_nothing` — every listing whose entries are objects.
* `Client.objects_of_list` — every listing that is a list: its objects are read, all or none, and
  they are all there is only when the list holds nothing else.
* `Client.entry_lost` — an entry that is a text is lost.
-/

set_option autoImplicit false

namespace Pacts

open Session (Talk Ends)

namespace Links

/-- What stands under a name among the links of a document. -/
def under (doc : Json) (rel : String) : Option Json := (doc.get? member).bind (·.get? rel)

/-- The links under a name are objects: those of a list, or a single one on its own. -/
inductive AreObjects (doc : Json) (rel : String) : List Json → Prop
  | list {items : List Json} (place : under doc rel = some (.arr items))
      (objects : ∀ item ∈ items, item.isObject = true) : AreObjects doc rel items
  | single {members : List (String × Json)} (place : under doc rel = some (.obj members)) :
      AreObjects doc rel [.obj members]

variable {doc : Json} {rel : String}

/-- Of a list, only the objects are entries. -/
theorem entries_of_list {items : List Json} (h : under doc rel = some (.arr items)) :
    entries doc rel = items.filter Json.isObject := by
  rw [entries, ← under, h]

theorem AreObjects.entries_eq {items : List Json} (h : AreObjects doc rel items) :
    entries doc rel = items := by
  cases h with
  | list place objects => rw [entries_of_list place, List.filter_eq_self.2 objects]
  | single place => rw [entries, ← under, place]

end Links

namespace Client

variable {c : Client} {provider : String} {tag : Option String}

/-! ## Consumers -/

theorem listingTag_eq_none_iff :
    Consumer.listingTag tag = none ↔ tag = none ∨ tag = some "" ∨ tag = some "latest" := by
  cases tag with
  | none => simp [Consumer.listingTag, Consumer.isLatest]
  | some t => simp [Consumer.listingTag, Consumer.isLatest, Consumer.latest, or_iff_not_imp_left]

theorem listingTag_eq_none_or : Consumer.listingTag tag = none ∨ Consumer.listingTag tag = tag := by
  rw [Consumer.listingTag]
  split
  · exact .inl rfl
  · exact .inr rfl

/-- A consumer that a client finds is what an entry says: it has the name as it stands there, the
URL that the `href` leads to from the broker's, the options of the client, and the tag, unless the
tag means the latest pacts. -/
structure Describes (c : Client) (tag : Option String) (entry : Json) (k : Consumer) : Prop where
  name : entry.Says "name" k.name
  href : ∃ href url, entry.Says "href" href ∧ Url.resolve c.baseUrl href = .ok url ∧
    k.href = url.text
  credentials : k.credentials = c.credentials.options
  latest : k.tag = none ↔ tag = none ∨ tag = some "" ∨ tag = some "latest"
  tagged : k.tag = none ∨ k.tag = tag

theorem describes_of_readEntry {listing : Url} {entry : Json} {e : Listed}
    (h : readEntry c.baseUrl listing entry = .ok e) :
    c.Describes tag entry
      (Consumer.ofListed c.credentials.options (Consumer.listingTag tag) e) := by
  obtain ⟨hname, hhref⟩ := readEntry_eq_ok_iff.1 h
  exact ⟨hname, hhref, rfl, listingTag_eq_none_iff, listingTag_eq_none_or⟩

/-! ## Searches that have fetched a listing -/

section Fetched

variable {talk : Talk} {r : Except BrokerError (List Consumer)} {asked : Request} {doc : Json}

theorem Search.exists_ok_iff (h : Search c provider tag talk r)
    (hdoc : talk[1]? = some (asked, .document doc)) :
    (∃ ks, r = .ok ks) ↔
      ∀ entry ∈ Links.entries doc pactsRel, Complete c.baseUrl entry := by
  rw [(h.of_fetched hdoc).2, ← exists_readListing_eq_ok_iff asked.url]
  simp only [map_eq_ok_iff]
  refine ⟨?_, ?_⟩
  · rintro ⟨_, es, hes, -⟩
    exact ⟨es, hes⟩
  · rintro ⟨es, hes⟩
    exact ⟨_, es, hes, rfl⟩

/-- The consumers are what the entries say, one after the other. -/
theorem Search.describes {ks : List Consumer} (h : Search c provider tag talk (.ok ks))
    (hdoc : talk[1]? = some (asked, .document doc)) :
    List.Forall₂ (c.Describes tag) (Links.entries doc pactsRel) ks := by
  obtain ⟨es, hes, rfl⟩ := map_eq_ok_iff.1 (h.of_fetched hdoc).2.symm
  rw [consumersIn, List.forall₂_map_right_iff]
  exact (readListing_eq_ok_iff.1 hes).imp fun _ _ he => describes_of_readEntry he

/-- The error is what is wrong with the first entry that is not complete. -/
theorem Search.error_iff (h : Search c provider tag talk r)
    (hdoc : talk[1]? = some (asked, .document doc)) {e : BrokerError} :
    r = .error e ↔
      ∃ front entry back, Links.entries doc pactsRel = front ++ entry :: back ∧
        (∀ earlier ∈ front, Complete c.baseUrl earlier) ∧
        EntryFault c.baseUrl asked.url entry e := by
  rw [(h.of_fetched hdoc).2, map_eq_error_iff, readListing_eq_error_iff]

end Fetched

/-! ## Samples -/

namespace Sample

/-- A client that does not say who is asking. -/
def client : Client :=
  { baseUrl :=
      { scheme := "http", username := "", password := none, host := some "broker", port := none,
        path := .segments [""], query := none, fragment := none }
    credentials := .anonymous }

/-- The document whose links under a name are these. -/
def linking (rel : String) (links : Json) : Json := .obj [(Links.member, .obj [(rel, links)])]

/-- The broker whose listing of the latest pacts holds these items. -/
def broker (items : List Json) : Request → Reply :=
  Session.publishing [("http://broker/", linking latestRel (.obj [("href", .str "latest")])),
    ("http://broker/latest", linking pactsRel (.arr items))]

/-- The request for the listing. -/
def asked : Request :=
  client.requestFor { client.baseUrl with path := .segments ["latest"] }

/-- A complete entry. -/
def web : Json := .obj [("name", .str "web"), ("href", .str "web.json")]

/-- An entry that does not say where the pact is. -/
def shop : Json := .obj [("name", .str "shop")]

theorem complete_web : Complete client.baseUrl web := by
  refine ⟨⟨"web", rfl, by decide⟩, "web.json", ⟨rfl, by decide⟩, ?_⟩
  exact ⟨{ client.baseUrl with path := .segments ["web.json"] }, by decide +kernel⟩

theorem says_shop : shop.Says "name" "shop" := ⟨rfl, by decide⟩

theorem not_says_href_shop (href : String) : ¬ shop.Says "href" href := by
  rintro ⟨h, -⟩
  cases h

end Sample

open Sample

/-! ## Listings -/

variable {σ : Type} (answer : σ → Request → Reply × σ) (state : σ) (c provider tag)

/-- **A listing is read as a whole or not at all.**  When the entries of a listing are objects, a
search finds the consumers that they describe, each in its place, if all the entries are complete,
and otherwise it fails for what is wrong with the first one that is not.  Whatever the listing
holds, nothing is asked for behind it. -/
theorem listing_all_or_nothing {asked : Request} {doc : Json} {entries : List Json}
    (hdoc : ((c.consumersOf provider tag).talk answer state)[1]? = some (asked, .document doc))
    (hentries : Links.AreObjects doc pactsRel entries) :
    let search := (c.consumersOf provider tag).run answer state
    ((∃ ks, search.1 = .ok ks) ↔ ∀ entry ∈ entries, Complete c.baseUrl entry) ∧
      (∀ ks, search.1 = .ok ks → List.Forall₂ (c.Describes tag) entries ks) ∧
      (∀ e, search.1 = .error e ↔
        ∃ front entry back, entries = front ++ entry :: back ∧
          (∀ earlier ∈ front, Complete c.baseUrl earlier) ∧
          EntryFault c.baseUrl asked.url entry e) ∧
      search.2.1 = [c.requestFor c.baseUrl, asked] := by
  intro search
  have hsearch : c.Search provider tag _ search.1 :=
    ends_consumersOf_iff.1 (Session.ends_talk answer (c.consumersOf provider tag) state)
  rw [← hentries.entries_eq]
  refine ⟨hsearch.exists_ok_iff hdoc, ?_, fun e => hsearch.error_iff hdoc, ?_⟩
  · intro ks hks
    rw [hks] at hsearch
    exact hsearch.describes hdoc
  · rw [Session.requests_eq_map_talk]
    exact (hsearch.of_fetched hdoc).1

/-- A search fails for the first entry that does not say where the pact is, and not for the one
behind it that says nothing at all. -/
theorem listing_all_or_nothing_of_shop :
    let items := [web, shop, .obj []]
    let session := client.consumersOf "store" none
    let search := session.run (Session.steady (broker items)) ()
    (session.talk (Session.steady (broker items)) ())[1]? =
        some (asked, .document (linking pactsRel (.arr items))) ∧
      Links.AreObjects (linking pactsRel (.arr items)) pactsRel items ∧
      search.1 = .error (.invalidHal "http://broker/latest"
        "pact link without href: \x7b\"name\":\"shop\"\x7d") ∧
      search.2.1 = [client.requestFor client.baseUrl, asked] := by
  intro items session search
  have hdoc : (session.talk (Session.steady (broker items)) ())[1]? =
      some (asked, .document (linking pactsRel (.arr items))) := by decide +kernel
  have hitems : Links.AreObjects (linking pactsRel (.arr items)) pactsRel items :=
    .list rfl (by decide)
  obtain ⟨-, -, herror, hrequests⟩ :=
    listing_all_or_nothing client "store" none (Session.steady (broker items)) () hdoc hitems
  have hfault : EntryFault client.baseUrl asked.url shop (.invalidHal "http://broker/latest"
      "pact link without href: \x7b\"name\":\"shop\"\x7d") :=
    .placeless says_shop not_says_href_shop
  refine ⟨hdoc, hitems, (herror _).2 ⟨[web], shop, [.obj []], rfl, ?_, hfault⟩, hrequests⟩
  exact List.forall_mem_singleton.2 complete_web

/-- **Of a list, only the objects are read.**  They are read all or none: a search that succeeds
finds the consumers that they describe, each in its place, and it fails as soon as one of them is
not complete.  Whatever else is in the list makes no difference, so there are as many consumers as
items only when every item is an object. -/
theorem objects_of_list {asked : Request} {doc : Json} {items : List Json}
    (hdoc : ((c.consumersOf provider tag).talk answer state)[1]? = some (asked, .document doc))
    (hitems : Links.under doc pactsRel = some (.arr items)) :
    let found := ((c.consumersOf provider tag).run answer state).1
    (∀ ks, found = .ok ks →
      List.Forall₂ (c.Describes tag) (items.filter Json.isObject) ks ∧
      (ks.length = items.length ↔ ∀ item ∈ items, item.isObject = true)) ∧
      ((∃ e, found = .error e) ↔
        ∃ item ∈ items, item.isObject = true ∧ ¬ Complete c.baseUrl item) := by
  intro found
  have hsearch : c.Search provider tag _ found :=
    ends_consumersOf_iff.1 (Session.ends_talk answer (c.consumersOf provider tag) state)
  have hentries := Links.entries_of_list hitems
  refine ⟨?_, ?_⟩
  · intro ks hks
    rw [hks] at hsearch
    have hdescribes := hsearch.describes hdoc
    rw [hentries] at hdescribes
    refine ⟨hdescribes, ?_⟩
    rw [← hdescribes.length_eq, List.length_filter_eq_length_iff]
  · have hok := hsearch.exists_ok_iff hdoc
    rw [hentries] at hok
    have herror : (∃ e, found = .error e) ↔ ¬ ∃ ks, found = .ok ks := by
      cases found <;> simp
    rw [herror, hok]
    simp only [List.mem_filter, not_forall, exists_prop, and_assoc]

/-- An object that is not complete is noticed, whatever stands around it. -/
theorem objects_of_list_of_shop :
    let items := [.str "web", shop, .null]
    let session := client.consumersOf "store" none
    (session.talk (Session.steady (broker items)) ())[1]? =
        some (asked, .document (linking pactsRel (.arr items))) ∧
      Links.under (linking pactsRel (.arr items)) pactsRel = some (.arr items) ∧
      ∃ e, (session.run (Session.steady (broker items)) ()).1 = .error e := by
  intro items session
  have hdoc : (session.talk (Session.steady (broker items)) ())[1]? =
      some (asked, .document (linking pactsRel (.arr items))) := by decide +kernel
  have hitems : Links.under (linking pactsRel (.arr items)) pactsRel = some (.arr items) := rfl
  have hshop : ¬ Complete client.baseUrl shop := by
    rintro ⟨-, href, hhref, -⟩
    exact not_says_href_shop href hhref
  have herror := (objects_of_list client "store" none (Session.steady (broker items)) () hdoc
    hitems).2
  exact ⟨hdoc, hitems, herror.2 ⟨shop, by simp [items], rfl, hshop⟩⟩

/-- **An entry that is a text is lost.**  It says neither who the consumer is nor where its pact is,
but the search succeeds, with fewer consumers than there are entries. -/
theorem entry_lost :
    let items := [.str "shop", web]
    let session := client.consumersOf "store" none
    (session.talk (Session.steady (broker items)) ())[1]? =
        some (asked, .document (linking pactsRel (.arr items))) ∧
      Links.under (linking pactsRel (.arr items)) pactsRel = some (.arr items) ∧
      (∀ name, ¬ (Json.str "shop").Says "name" name) ∧
      ∃ k, (session.run (Session.steady (broker items)) ()).1 = .ok [k] ∧
        [k].length < items.length := by
  intro items session
  have hnameless : ∀ name, ¬ (Json.str "shop").Says "name" name := by
    rintro name ⟨h, -⟩
    cases h
  refine ⟨by decide +kernel, rfl, hnameless, ?_⟩
  exact ⟨⟨"web", "http://broker/web.json", [], none⟩, by decide +kernel, by decide⟩

end Client

end Pacts
