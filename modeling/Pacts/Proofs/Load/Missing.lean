import Pacts.Proofs.Load.Faults
import Pacts.Proofs.Load.Requests

/-!
# What may be missing

A broker that has nothing at a URL says so in the same way for each of the three kinds of requests:
for its own document, for a listing and for a pact.  The first two mean that there are no consumers.
Only a pact that is missing is a failure, and this file traces such a failure back: the request for
the pact was the last one of the load, and the consumer whose pact it is stood in a listing that the
load had fetched, and counts.

* `Fetches.missing` — among downloads, the last request is for what is missing.
* `BrokerSettings.PactMissing` — the whole provenance, `Pass.pactMissing` for a pass, and
  `Course.pactMissing` for all the passes of a load.
* `BrokerLoader.notFound_load` — the searches and the loads against a machine.

What is said of the URL of the pact rests on two things.  The machine tells of the URL that it was
asked for and of no other that there is nothing (`Session.NamesMissing`); and the text of a URL that
a listing leads to is read again when the pact is asked for, and then has to stand for the same URL
(`Client.ReadsBack`).
-/

set_option autoImplicit false

namespace Pacts

open Session (Talk Ends)

/-! ## Machines -/

/-- That there is nothing is said of the URL that was asked for. -/
def Session.NamesMissing {σ : Type} (answer : σ → Request → Reply × σ) : Prop :=
  ∀ state r url, (answer state r).1.toExcept r.url.text = .error (.notFound url) → url = r.url.text

/-- The texts of the URLs that a listing leads to can be read, and stand for these URLs. -/
def Client.ReadsBack (c : Client) (doc : Json) : Prop :=
  ∀ entry ∈ Links.entries doc Client.pactsRel, ∀ href url,
    (entry.get? "href").bind Json.str? = some href → Url.resolve c.baseUrl href = .ok url →
      Url.parse url.text = .ok url

/-- The URLs in all the listings that a machine may give out read back. -/
def BrokerSettings.ListingsReadBack {σ : Type} (s : BrokerSettings) (lookup : Lookup)
    (answer : σ → Request → Reply × σ) : Prop :=
  ∀ c, s.client lookup = .ok c → ∀ state r doc, (answer state r).1 = .document doc → c.ReadsBack doc

/-- The URL of a consumer whose listing reads back. -/
theorem Client.ReadsBack.href {c : Client} {listing : Url} {doc : Json} {entries : List Listed}
    (h : c.ReadsBack doc) (hr : Client.readListing c.baseUrl listing doc = .ok entries)
    {tag : Option String} {k : Consumer} (hk : k ∈ c.consumersIn tag entries) :
    ∃ url, Url.parse k.href = .ok url ∧ url.text = k.href := by
  obtain ⟨entry, hentry, rfl⟩ := List.mem_map.1 hk
  obtain ⟨item, hitem, hread⟩ := Client.mem_readListing hr hentry
  obtain ⟨href, url, hhref, hurl, htext⟩ := Client.readEntry_eq_ok hread
  refine ⟨url, ?_, htext.symm⟩
  show Url.parse entry.href = .ok url
  rw [htext]
  exact h item hitem href url hhref hurl

/-- What is said of missing documents in a talk is said of the URLs that were asked for, and the
URLs in its documents read back. -/
structure BrokerSettings.Reliable (s : BrokerSettings) (lookup : Lookup) (talk : Talk) : Prop where
  names : ∀ x ∈ talk, ∀ url, x.2.toExcept x.1.url.text = .error (.notFound url) → url = x.1.url.text
  reads : ∀ c, s.client lookup = .ok c → ∀ r doc, (r, Reply.document doc) ∈ talk → c.ReadsBack doc

theorem BrokerSettings.Reliable.of_subset {s : BrokerSettings} {lookup : Lookup}
    {talk part : Talk} (h : s.Reliable lookup talk) (hsub : part ⊆ talk) :
    s.Reliable lookup part :=
  ⟨fun x hx => h.names x (hsub hx), fun c hc r doc hx => h.reads c hc r doc (hsub hx)⟩

theorem BrokerSettings.reliable_talk {σ α : Type} {answer : σ → Request → Reply × σ}
    {s : BrokerSettings} {lookup : Lookup} (hn : Session.NamesMissing answer)
    (hr : s.ListingsReadBack lookup answer) (session : Session α) (state : σ) :
    s.Reliable lookup (session.talk answer state) := by
  constructor
  · intro x hx url he
    obtain ⟨state', hs⟩ := Session.exists_answer_of_mem_talk hx
    exact hn state' x.1 url (by rw [hs]; exact he)
  · intro c hc r doc hx
    obtain ⟨state', hs⟩ := Session.exists_answer_of_mem_talk hx
    exact hr c hc state' r doc hs

/-! ## Where a missing document comes from -/

/-- Among downloads, the last request is the one for what is missing. -/
theorem Fetches.missing {cs : List Consumer} {talk : Talk} {downloads : List (String × Pact)}
    {failure : Option LoadError} (h : Fetches cs talk downloads failure) {url : String}
    (hf : failure = some (.broker (.notFound url))) :
    ∃ k ∈ cs, ∃ target reply before, talk = before ++ [(k.pactRequest target, reply)] ∧
      Url.parse k.href = .ok target ∧ reply.toExcept target.text = .error (.notFound url) := by
  induction h with
  | finished | unreadable | spoiled => cases hf
  | refused href answer =>
    cases hf
    exact ⟨_, List.mem_cons_self, _, _, [], rfl, href, answer⟩
  | got _ _ _ ih =>
    obtain ⟨k, hk, target, reply, before, rfl, hp⟩ := ih hf
    exact ⟨k, List.mem_cons_of_mem _ hk, target, reply, _ :: before, rfl, hp⟩

/-- What is missing is the pact of a consumer.  The consumer stands in the listing that was fetched
in the pass for a tag and counts, and the request for its pact was the last of the talk. -/
inductive BrokerSettings.PactMissing (s : BrokerSettings) (lookup : Lookup) (provider : String)
    (tags : List (Option String)) (talk : Talk) (url : String) : Prop
  | intro {c : Client} {tag : Option String} {root doc : Json} {listing target : Url}
      {entries : List Listed} {k : Consumer} {before : Talk} {reply : Reply}
      (settings : s.client lookup = .ok c) (pass : tag ∈ tags)
      (index : (c.requestFor c.baseUrl, .document root) ∈ before)
      (link : c.followListing provider tag root = .ok listing)
      (fetched : (c.requestFor listing, .document doc) ∈ before)
      (listed : Client.readListing c.baseUrl listing doc = .ok entries)
      (counts : k ∈ Inclusion.filter lookup s.consumers (c.consumersIn tag entries))
      (last : talk = before ++ [(k.pactRequest target, reply)])
      (href : k.href = url) (asked : target.text = url)
      (missing : reply.toExcept target.text = .error (.notFound url)) :
      s.PactMissing lookup provider tags talk url

section Course

variable {s : BrokerSettings} {lookup : Lookup} {provider : String} {url : String}

theorem BrokerSettings.PactMissing.mono {tags tags' : List (Option String)} {talk : Talk}
    (h : s.PactMissing lookup provider tags talk url) (htags : tags ⊆ tags') (front : Talk) :
    s.PactMissing lookup provider tags' (front ++ talk) url := by
  obtain ⟨settings, pass, index, link, fetched, listed, counts, rfl, href, asked, missing⟩ := h
  refine .intro settings (htags pass) (List.mem_append_right front index) link
    (List.mem_append_right front fetched) listed counts ?_ href asked missing
  rw [List.append_assoc]

/-- A pass fails for something that is missing only when it is a pact. -/
theorem Pass.pactMissing {tag : Option String} {talk : Talk} {downloads : List (String × Pact)}
    (h : Pass s lookup provider tag talk downloads (some (.broker (.notFound url))))
    (hr : s.Reliable lookup talk) : s.PactMissing lookup provider [tag] talk url := by
  cases h with
  | unconfigured hs =>
    exact absurd rfl ((BrokerSettings.client_eq_error_iff.1 hs).ne_notFound url)
  | unlisted _ hl => exact absurd rfl ((Client.ends_consumersOf_iff.1 hl).ne_notFound url)
  | @listed c search fetched ks _ _ hs hl _ hf =>
    obtain ⟨k, hk, target, reply, before, rfl, hparse, hmissing⟩ := hf.missing rfl
    have hmem : k ∈ ks := (Inclusion.keep_sublist _ _).subset hk
    obtain ⟨root, listing, doc, entries, hlink, rfl, hlisting, rfl⟩ :=
      (Client.ends_consumersOf_iff.1 hl).listing_of_ne_nil (List.ne_nil_of_mem hmem)
    -- the URL in the listing is read a second time when the pact is asked for
    obtain ⟨url', hparse', htext⟩ :=
      (hr.reads c hs (c.requestFor listing) doc (by simp)).href hlisting hmem
    obtain rfl : target = url' := by simpa [hparse] using hparse'
    have hname : url = target.text := hr.names (k.pactRequest target, reply) (by simp) url hmissing
    exact .intro hs (List.mem_singleton_self tag) (by simp) hlink (by simp) hlisting hk
      (List.append_assoc ..).symm (htext.symm.trans hname.symm) hname.symm hmissing

theorem Course.pactMissing {tags : List (Option String)} {talk : Talk}
    {downloads : List (String × Pact)} {failure : Option LoadError}
    (h : Course s lookup provider tags talk downloads failure)
    (hf : failure = some (.broker (.notFound url))) (hr : s.Reliable lookup talk) :
    s.PactMissing lookup provider tags talk url := by
  induction h with
  | finished => cases hf
  | stopped hp =>
    cases hf
    exact (hp.pactMissing hr).mono (by simp) []
  | onward _ _ _ ih =>
    exact (ih hf (hr.of_subset (List.subset_append_right _ _))).mono (List.subset_cons_self _ _) _

end Course

/-! ## Loads -/

namespace BrokerLoader

/-- **Only a pact can be missing.**  A search for consumers never fails for something that is not
there: when there is nothing at the broker's URL or at that of the listing, no consumers are found,
and every other error of the two requests is what the search fails with.  A load fails for what the
broker said, or because there are no pacts, and for nothing else.  When it fails because there is
nothing at a URL, then this is the URL of the pact of a consumer that stood in a listing and counts,
and the request for that pact was the last one. -/
theorem notFound_load {σ : Type} (answer : σ → Request → Reply × σ) (state : σ) (l : BrokerLoader)
    (named : Lookup) (provider : String) :
    let load := l.load named provider
    let lookup := l.lookup named
    (∀ (c : Client) (tag : Option String),
      let search := c.consumersOf provider tag
      let found := (search.run answer state).1
      (∃ listing : Option Url, (search.run answer state).2.1 =
        c.requestFor c.baseUrl :: (listing.map c.requestFor).toList) ∧
      (∀ url, found ≠ .error (.notFound url)) ∧
      ∀ x ∈ search.talk answer state,
        (∀ url, x.2.toExcept x.1.url.text = .error (.notFound url) → found = .ok []) ∧
        ∀ e, x.2.toExcept x.1.url.text = .error e → (∀ url, e ≠ .notFound url) →
          found = .error e) ∧
    (∀ e, (load.run answer state).1.2 = .error e →
      (∃ fault, e = .broker fault) ∨ ∃ tag url, e = .noPactsFound provider tag url) ∧
    (Session.NamesMissing answer → l.settings.ListingsReadBack lookup answer →
      ∀ url, (load.run answer state).1.2 = .error (.broker (.notFound url)) →
        l.settings.PactMissing lookup provider (l.settings.passTags lookup)
          (load.talk answer state) url) := by
  intro load lookup
  have hcourse : ∀ e, (load.run answer state).1.2 = .error e →
      ∃ downloads, Course l.settings lookup provider (l.settings.passTags lookup)
        (load.talk answer state) downloads (some e) := by
    intro e he
    obtain ⟨p, hp, -, hr⟩ := loaded_load (Session.ends_talk answer load state)
    rw [Progress.result_eq_error_iff.1 (hr.symm.trans he)] at hp
    exact ⟨_, hp⟩
  refine ⟨?_, ?_, ?_⟩
  · intro c tag search found
    have hsearch : c.Search provider tag (search.talk answer state) found :=
      Client.ends_consumersOf_iff.1 (Session.ends_talk answer search state)
    refine ⟨?_, ?_, ?_⟩
    · rw [Session.requests_eq_map_talk]
      exact hsearch.requests
    · intro url he
      rw [he] at hsearch
      exact hsearch.ne_notFound url rfl
    · intro x hx
      refine ⟨fun url he => hsearch.eq_tolerated hx he, ?_⟩
      intro e he hn
      rw [hsearch.eq_tolerated hx he]
      exact Client.tolerated_eq_error_iff.2 ⟨rfl, hn⟩
  · intro e he
    obtain ⟨_, h⟩ := hcourse e he
    exact h.broker_or_noPactsFound rfl
  · intro hn hr url he
    obtain ⟨_, h⟩ := hcourse _ he
    exact h.pactMissing rfl (BrokerSettings.reliable_talk hn hr load state)

/-- A machine that gives out documents only says of what it was asked for that it is missing. -/
theorem namesMissing_publishing (documents : List (String × Json)) :
    Session.NamesMissing (Session.steady (Session.publishing documents)) := by
  intro state r url h
  rw [Session.steady, Session.publishing] at h
  split at h
  · cases h
  · cases h
    rfl

/-- A loader for the pacts of the sample's other consumer. -/
def Sample.shopLoader : BrokerLoader :=
  .ofSettings { Sample.settings with consumers := ["shop"] }

/-- The sample lists a consumer whose pact it does not have. -/
theorem notFound_load_of_shop :
    Session.NamesMissing (Session.steady Sample.broker) ∧
      Sample.shopLoader.settings.ListingsReadBack .empty (Session.steady Sample.broker) ∧
      ((Sample.shopLoader.load .empty "store").run (Session.steady Sample.broker) ()).1.2 =
        .error (.broker (.notFound "http://broker/shop.json")) ∧
      Sample.shopLoader.settings.PactMissing .empty "store" [some "v1"]
        ((Sample.shopLoader.load .empty "store").talk (Session.steady Sample.broker) ())
        "http://broker/shop.json" := by
  have hn : Session.NamesMissing (Session.steady Sample.broker) :=
    namesMissing_publishing Sample.documents
  have hr : Sample.shopLoader.settings.ListingsReadBack .empty (Session.steady Sample.broker) :=
    fun c hc _ r doc hdoc => Sample.readsBack c hc r doc hdoc
  have he : ((Sample.shopLoader.load .empty "store").run (Session.steady Sample.broker) ()).1.2 =
      .error (.broker (.notFound "http://broker/shop.json")) :=
    Progress.eq_error_of_failureOf (by decide +kernel)
  have htags : Sample.shopLoader.settings.passTags .empty = [some "v1"] := by decide +kernel
  have hload := (notFound_load (Session.steady Sample.broker) () Sample.shopLoader .empty
    "store").2.2 hn hr _ he
  refine ⟨hn, hr, he, ?_⟩
  rw [← htags]
  exact hload

end BrokerLoader

end Pacts
