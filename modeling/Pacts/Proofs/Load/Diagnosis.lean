import Mathlib.Data.List.Forall2
import Pacts.Proofs.Broker.Entries
import Pacts.Proofs.Load.EmptyListings

/-!
# Where nothing was found

A load that fails because there are no pacts tells where it looked for them.  The search has thrown
this away by then, so the place is worked out once more, in a way of its own: by another request for
the broker's own document and without the listing, and with an answer even when there is none.  That
the two agree is a matter of the tag, which either of them turns into a link by itself, and of the
errors, which the search passes on or takes for an empty listing, while the diagnosis takes them all
alike.

* `Client.NobodyAt` — where a search found no consumers: nowhere when the broker has no document of
  its own, or else at a listing that is missing or empty.
* `BrokerSettings.failure_pass_eq_noPactsFound` — a pass that fails because there are no pacts.
* `BrokerLoader.noPactsFound_names_listing` — the searches and the loads.
-/

set_option autoImplicit false

namespace Pacts

variable {world : Request → Reply}

namespace Client

variable {c : Client} {provider : String} {tag : Option String}

/-! ## Searches -/

/-- A search asks for the broker's own document and for the listing, if there is a link to it. -/
theorem requests_consumersOf_eq :
    (c.consumersOf provider tag).requests world =
      c.requestFor c.baseUrl ::
        ((c.listingLink world provider tag).toOption.map c.requestFor).toList := by
  rw [requests_consumersOf]
  cases c.listingLink world provider tag <;> rfl

/-- Where a search finds no consumers: nowhere, as the broker has no document of its own, or at the
listing, as it is missing or has no entries. -/
inductive NobodyAt (world : Request → Reply) (c : Client) (provider : String)
    (tag : Option String) : Option Url → Prop
  | unknown {url : String} (index : c.answer world c.baseUrl = .error (.notFound url)) :
      NobodyAt world c provider tag none
  | missing {root : Json} {listing : Url} {url : String}
      (index : c.answer world c.baseUrl = .ok root)
      (link : c.followListing provider tag root = .ok listing)
      (answer : c.answer world listing = .error (.notFound url)) :
      NobodyAt world c provider tag (some listing)
  | empty {root doc : Json} {listing : Url} (index : c.answer world c.baseUrl = .ok root)
      (link : c.followListing provider tag root = .ok listing)
      (answer : c.answer world listing = .ok doc) (entries : Links.entries doc pactsRel = []) :
      NobodyAt world c provider tag (some listing)

theorem found_of_error {e : BrokerError} (h : c.listingLink world provider tag = .error e) :
    c.found world provider tag = tolerated e := by
  rw [found, h]
  cases e <;> rfl

theorem found_of_answer_error {listing : Url} {e : BrokerError}
    (hl : c.listingLink world provider tag = .ok listing)
    (ha : c.answer world listing = .error e) : c.found world provider tag = tolerated e := by
  rw [found, hl]
  simp only [Except.bind, ha]
  cases e <;> rfl

theorem found_of_answer_ok {listing : Url} {doc : Json}
    (hl : c.listingLink world provider tag = .ok listing) (ha : c.answer world listing = .ok doc) :
    c.found world provider tag = (readListing c.baseUrl listing doc).map (c.consumersIn tag) := by
  rw [found, hl]
  simp only [Except.bind, ha]
  rfl

/-- No consumers are read from a listing only when it has no entries. -/
theorem entries_eq_nil_of_readListing {listing : Url} {doc : Json}
    (h : (readListing c.baseUrl listing doc).map (c.consumersIn tag) = .ok []) :
    Links.entries doc pactsRel = [] := by
  obtain ⟨es, hes, hnil⟩ := map_eq_ok_iff.1 h
  obtain rfl : es = [] := List.map_eq_nil_iff.1 hnil
  exact List.forall₂_nil_right_iff.1 (readListing_eq_ok_iff.1 hes)

/-- A search that finds no consumers has a place where it finds none, which is the one that it
asked for. -/
theorem nobodyAt_of_found (h : c.found world provider tag = .ok []) :
    c.NobodyAt world provider tag (c.listingLink world provider tag).toOption := by
  cases hi : c.answer world c.baseUrl with
  | error e =>
    have hlink : c.listingLink world provider tag = .error e := by rw [listingLink, hi]; rfl
    obtain ⟨url, rfl⟩ := exists_notFound_of_tolerated ((found_of_error hlink).symm.trans h)
    rw [hlink]
    exact .unknown hi
  | ok root =>
    have hlink : c.listingLink world provider tag = c.followListing provider tag root := by
      rw [listingLink, hi]
      rfl
    cases hl : c.followListing provider tag root with
    | error e =>
      have hfound := found_of_error (hlink.trans hl)
      rw [tolerated_of_isComplaint (Links.isComplaint_of_follow hl)] at hfound
      cases hfound.symm.trans h
    | ok listing =>
      rw [hlink, hl]
      cases ha : c.answer world listing with
      | error e =>
        have hfound := found_of_answer_error (hlink.trans hl) ha
        obtain ⟨url, rfl⟩ := exists_notFound_of_tolerated (hfound.symm.trans h)
        exact .missing hi hl ha
      | ok doc =>
        have hfound := found_of_answer_ok (hlink.trans hl) ha
        exact .empty hi hl ha (entries_eq_nil_of_readListing (hfound.symm.trans h))

end Client

/-! ## Passes -/

namespace BrokerSettings

variable {s : BrokerSettings} {lookup : Lookup} {provider : String} {tag : Option String}

theorem failure_download_ne_noPactsFound (ks : List Consumer) (who name url : String) :
    ((download ks).result world).failure ≠ some (.noPactsFound who name url) := by
  intro h
  have hfetches := ends_download_iff.1 (Session.ends_talk (Session.steady world) (download ks) ())
  obtain ⟨fault, hfault⟩ := hfetches.failure_eq_broker h
  cases hfault

/-- A pass fails because there are no pacts when it finds no consumers and takes that for a failure,
and it tells where it looked. -/
theorem failure_pass_eq_noPactsFound {who name url : String}
    (h : ((s.pass lookup provider tag).result world).failure =
      some (.noPactsFound who name url)) :
    s.failIfNone = true ∧ who = provider ∧ name = tag.getD Consumer.latest ∧
      ∃ c, s.client lookup = .ok c ∧ c.found world provider tag = .ok [] ∧
        url = (c.shownListingUrl provider tag).result world := by
  cases hc : s.client lookup with
  | error e =>
    rw [result_pass_of_error hc] at h
    cases h
  | ok c =>
    rw [result_pass hc] at h
    cases hf : c.found world provider tag with
    | error e =>
      rw [hf] at h
      cases h
    | ok ks =>
      rw [hf] at h
      dsimp only at h
      split at h
      · rename_i hn
        obtain ⟨hfail, rfl⟩ := hn
        cases h
        exact ⟨hfail, rfl, rfl, c, rfl, hf, rfl⟩
      · exact absurd h (failure_download_ne_noPactsFound _ who name url)

/-- Such a pass asks for the broker's own document once more. -/
theorem requests_pass_of_found {c : Client} (hfail : s.failIfNone = true)
    (hc : s.client lookup = .ok c) (hf : c.found world provider tag = .ok []) :
    (s.pass lookup provider tag).requests world =
      (c.consumersOf provider tag).requests world ++ [c.requestFor c.baseUrl] := by
  have hlisted : s.listedLog world lookup provider c tag [] =
      Sent.searching ((c.shownListingUrl provider tag).requests world) := if_pos ⟨hfail, rfl⟩
  rw [requests_pass, passLog, hc]
  dsimp only
  rw [hf]
  dsimp only
  rw [hlisted, List.map_append, Sent.map_request_searching, Sent.map_request_searching,
    Client.requests_shownListingUrl]
  rfl

end BrokerSettings

/-! ## Loads -/

namespace BrokerLoader

/-- **The place that is told is the one that was asked for.**  A search asks for the broker's own
document and perhaps for a listing, and what is told of its place is the URL of that listing, or
that it is not known when no listing was asked for.

A load that fails because there are no pacts has made a single such search, without a tag, and has
then asked for the broker's own document once more.  The URL in its error is that of the listing,
which was missing or had no entries, or it is not known because the broker has no document of its
own. -/
theorem noPactsFound_names_listing (world : Request → Reply) (l : BrokerLoader) (named : Lookup)
    (provider : String) :
    (∀ (c : Client) (tag : Option String), ∃ place : Option Url,
      (c.consumersOf provider tag).requests world =
        c.requestFor c.baseUrl :: (place.map c.requestFor).toList ∧
      (c.shownListingUrl provider tag).result world = (place.map Url.text).getD "Unknown") ∧
    ∀ who tag url,
      ((l.load named provider).result world).2 = .error (.noPactsFound who tag url) →
      who = provider ∧ tag = Consumer.latest ∧
        ∃ c place, l.settings.client (l.lookup named) = .ok c ∧
          c.NobodyAt world provider none place ∧ url = (place.map Url.text).getD "Unknown" ∧
          (l.load named provider).requests world =
            c.requestFor c.baseUrl :: (place.map c.requestFor).toList ++
              [c.requestFor c.baseUrl] := by
  refine ⟨?_, ?_⟩
  · intro c tag
    exact ⟨_, Client.requests_consumersOf_eq, Client.result_shownListingUrl⟩
  · intro who tag url h
    rw [result_load_eq, Progress.result_eq_error_iff] at h
    have htags : l.settings.tags = [] := by
      refine Classical.byContradiction fun ht => ?_
      exact l.settings.failure_collect_ne_noPactsFound world (l.lookup named) provider ht _ _ _ h
    obtain ⟨hresult, hrequests⟩ : (l.settings.collect (l.lookup named) provider).result world = _ ∧
        (l.settings.collect (l.lookup named) provider).requests world = _ :=
      BrokerSettings.collect_of_no_tags htags
    rw [hresult] at h
    obtain ⟨hfail, hwho, htag, c, hc, hf, hurl⟩ :=
      BrokerSettings.failure_pass_eq_noPactsFound h
    refine ⟨hwho, htag, c, _, hc, Client.nobodyAt_of_found hf, ?_, ?_⟩
    · rw [hurl, Client.result_shownListingUrl]
      rfl
    · rw [load_eq, Session.requests_bind, Session.requests_done, List.append_nil, hrequests,
        BrokerSettings.requests_pass_of_found hfail hc hf, Client.requests_consumersOf_eq]

/-- A load of the latest pacts tells of the listing that has none. -/
theorem noPactsFound_names_listing_of_no_items :
    let world := Client.Sample.broker []
    ((Sample.untagged.load .empty "store").result world).2 =
        .error (.noPactsFound "store" Consumer.latest "http://broker/latest") ∧
      ∃ (c : Client) (place : Option Url), c.NobodyAt world "store" none place ∧
        "http://broker/latest" = (place.map Url.text).getD "Unknown" ∧
        (Sample.untagged.load .empty "store").requests world =
          c.requestFor c.baseUrl :: (place.map c.requestFor).toList ++
            [c.requestFor c.baseUrl] := by
  intro world
  have herror : ((Sample.untagged.load .empty "store").result world).2 =
      .error (.noPactsFound "store" Consumer.latest "http://broker/latest") :=
    Progress.eq_error_of_failureOf (by decide +kernel)
  obtain ⟨-, -, c, place, -, hplace, hurl, hrequests⟩ :=
    (noPactsFound_names_listing world Sample.untagged .empty "store").2 _ _ _ herror
  exact ⟨herror, c, place, hplace, hurl, hrequests⟩

end BrokerLoader

end Pacts
