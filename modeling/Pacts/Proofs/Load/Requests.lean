import Pacts.Load.Broker
import Pacts.Proofs.Broker.Answers
import Pacts.Proofs.Load.Plan

/-!
# What a load asks for

Against a broker that always gives the same answer to the same request, the requests of a load can
be told beforehand.  This file writes them down as a plan and proves that a load makes exactly the
requests of its plan, up to the first step that fails.

* `BrokerSettings.plan` — the steps of a load.  A pass asks for the broker's own document and for
  the listing, unless there is nothing at the broker's URL; for the broker's document once more when
  there turn out to be no consumers and that is taken for a failure; and for the pacts of the
  consumers that count.
* `follows_consumersOf`, `follows_download`, `follows_pass`, `follows_passes` — the parts of a load
  follow the parts of the plan, along the definition of the load.
* `BrokerLoader.requests_load` — the requests of a load.

The URL of a pact is read twice: an entry of a listing is resolved against the broker's URL, and the
text of the result is read again when the pact is asked for.  `BrokerSettings.ReadsBack` says that
this gives the same URL for the entries that the broker lists.
-/

set_option autoImplicit false

namespace Pacts

open Plan (Step urls urls_cons cut cut_singleton cut_cons_of_none cut_cons_of_some failure_nil
  failure_cons)

/-! ## The plan of a load -/

section Planning

variable (world : Request → Reply)

namespace Client

variable (c : Client) (provider : String) (tag : Option String)

/-- Whether an answer is that there is nothing. -/
def absent {α : Type} : Except BrokerError α → Bool
  | .error (.notFound _) => true
  | _ => false

/-- What is wrong with an answer. -/
def complaint {α : Type} : Except BrokerError α → Option LoadError
  | .ok _ => none
  | .error e => some (.broker e)

/-- The request for the broker's own document.  That there is none is no failure. -/
def indexStep : Step where
  purpose := .index
  url? := some c.baseUrl.text
  failure :=
    if absent (c.listingLink world provider tag) then none
    else complaint (c.listingLink world provider tag)

/-- The request for the listing. -/
def listingStep : Step where
  purpose := .listing
  url? := (c.listingLink world provider tag).toOption.map Url.text
  failure := complaint (c.found world provider tag)

/-- The steps that find the consumers: there is no listing when the broker has no document. -/
def searchSteps : List Step :=
  c.indexStep world provider tag ::
    if absent (c.answer world c.baseUrl) then [] else [c.listingStep world provider tag]

end Client

/-- The request for the pact of a consumer. -/
def Consumer.pactStep (k : Consumer) : Step where
  purpose := .pact k
  url? := some k.href
  failure := Client.complaint (k.pact world)

namespace BrokerSettings

variable (s : BrokerSettings) (lookup : Lookup) (provider : String)

/-- The request that is made when there are no consumers, in a pass that fails for that. -/
def diagnosisStep (c : Client) (tag : Option String) : Step where
  purpose := .diagnosis
  url? := some c.baseUrl.text
  failure :=
    if s.tags = [] then
      some (.noPactsFound provider (tag.getD Consumer.latest)
        (((c.listingLink world provider tag).toOption.map Url.text).getD Consumer.unknownUrl))
    else none

/-- A consumer that the settings do not exclude. -/
def Counts (k : Consumer) : Prop :=
  Inclusion.names lookup s.consumers = [] ∨ k.name ∈ Inclusion.names lookup s.consumers

/-- The steps behind the search for consumers: the diagnosis when there are none and that is a
failure, and the pacts of those that count. -/
def listedSteps (c : Client) (tag : Option String) : List Step :=
  match c.found world provider tag with
  | .error _ => []
  | .ok consumers =>
    (if s.failIfNone ∧ consumers = [] then [s.diagnosisStep world provider c tag] else []) ++
      (Inclusion.filter lookup s.consumers consumers).map (Consumer.pactStep world)

/-- The steps of a pass, when the settings make sense. -/
def clientSteps (c : Client) (tag : Option String) : List Step :=
  c.searchSteps world provider tag ++ s.listedSteps world lookup provider c tag

/-- The steps of a pass. -/
def passSteps (tag : Option String) : List Step :=
  match s.client lookup with
  | .error e => [⟨.settings, none, some (.broker e)⟩]
  | .ok c => s.clientSteps world lookup provider c tag

/-- The steps of a load: those of its passes, one after the other. -/
def plan : List Step := (s.passTags lookup).flatMap (s.passSteps world lookup provider)

/-- The failure of a pass, unless the load goes on all the same. -/
def fatal (p : Progress) : Option LoadError := p.failure.filter fun e => !s.tolerates e

/-- The texts of the URLs that the listings of a broker lead to can be read, and stand for the URLs
whose texts they are. -/
def ReadsBack : Prop :=
  ∀ c, s.client lookup = .ok c → ∀ r doc, world r = .document doc →
    ∀ entry ∈ Links.entries doc Client.pactsRel, ∀ href url,
      (entry.get? "href").bind Json.str? = some href → Url.resolve c.baseUrl href = .ok url →
        Url.parse url.text = .ok url

end BrokerSettings

end Planning

/-! ## Following the plan -/

section Following

variable {world : Request → Reply}

namespace Client

variable {c : Client} {provider : String} {tag : Option String}

/-- Without a link to the listing there are no consumers, or the search fails. -/
theorem found_of_listingLink {e : BrokerError} (h : c.listingLink world provider tag = .error e) :
    complaint (c.found world provider tag) =
      if absent (c.listingLink world provider tag) then none else some (.broker e) := by
  rw [found, h]
  cases e <;> rfl

theorem purpose_of_mem_searchSteps {step : Step} (hs : step ∈ c.searchSteps world provider tag) :
    step.purpose = .index ∨ step.purpose = .listing := by
  rw [searchSteps] at hs
  rcases List.mem_cons.1 hs with rfl | hs
  · exact .inl rfl
  · split at hs
    · cases hs
    · obtain rfl := List.mem_singleton.1 hs
      exact .inr rfl

/-- A link to the listing was found in the broker's own document. -/
theorem not_absent_of_listingLink {url : Url} (h : c.listingLink world provider tag = .ok url) :
    absent (c.answer world c.baseUrl) = false := by
  rw [listingLink] at h
  cases hb : c.answer world c.baseUrl with
  | error e => simp [hb, Except.bind] at h
  | ok root => rfl

theorem follows_consumersOf :
    (c.consumersOf provider tag).Follows world complaint (c.searchSteps world provider tag) := by
  cases hl : c.listingLink world provider tag with
  | error e =>
    have hf := found_of_listingLink hl
    have hi : (c.indexStep world provider tag).failure =
        complaint (c.found world provider tag) := by
      rw [hf, indexStep, hl]
      rfl
    constructor
    · rw [requests_consumersOf, hl, searchSteps]
      cases ha : absent (c.listingLink world provider tag) with
      | true =>
        rw [cut_cons_of_none _ (by rw [hi, hf, ha]; rfl), urls_cons]
        -- no URL of a listing is known, so the step for it asks for nothing
        by_cases hb : absent (c.answer world c.baseUrl) = true
        · rw [if_pos hb]
          rfl
        · rw [if_neg hb, cut_singleton, urls_cons, listingStep, hl]
          rfl
      | false =>
        rw [cut_cons_of_some _ (by rw [hi, hf, ha]; rfl)]
        rfl
    · rw [result_consumersOf, searchSteps, failure_cons, hi]
      split
      · simp
      · rw [failure_cons, listingStep]
        simp
  | ok url =>
    have hi : (c.indexStep world provider tag).failure = none := by
      rw [indexStep, hl]
      rfl
    rw [searchSteps, not_absent_of_listingLink hl, if_neg Bool.false_ne_true]
    constructor
    · rw [requests_consumersOf, hl, cut_cons_of_none _ hi, cut_singleton, urls_cons, urls_cons,
        listingStep, hl]
      rfl
    · rw [result_consumersOf, failure_cons, hi, Option.none_or, failure_cons, failure_nil,
        Option.or_none, listingStep]

/-! ### Downloads -/

theorem follows_pactAt {k : Consumer} {url : Url} (hp : Url.parse k.href = .ok url)
    (ht : url.text = k.href) :
    (pactAt k.href k.credentials).Follows world complaint [k.pactStep world] := by
  constructor
  · rw [requests_pactAt hp, cut_singleton]
    exact congrArg (fun text => [text]) ht
  · rw [result_pactAt, failure_cons, failure_nil, Option.or_none, Consumer.pactStep]

end Client

namespace BrokerSettings

variable {s : BrokerSettings} {lookup : Lookup} {provider : String}

/-- Downloads follow their plan when the URLs of the consumers read back. -/
theorem follows_download {ks : List Consumer}
    (h : ∀ k ∈ ks, ∃ url, Url.parse k.href = .ok url ∧ url.text = k.href) :
    (download ks).Follows world s.fatal (ks.map (Consumer.pactStep world)) := by
  induction ks with
  | nil => exact .nothing _ rfl
  | cons k ks ih =>
    obtain ⟨⟨url, hp, ht⟩, hks⟩ := List.forall_mem_cons.1 h
    rw [download, List.map_cons, ← List.singleton_append]
    refine (Client.follows_pactAt hp ht).bind ?_ ?_
    · intro e he
      cases hr : (Client.pactAt k.href k.credentials).result world with
      | error e' =>
        rw [hr] at he
        cases he
        exact ⟨_, rfl, rfl⟩
      | ok pact => simp [hr, Client.complaint] at he
    · intro hn
      cases hr : (Client.pactAt k.href k.credentials).result world with
      | error e' => simp [hr, Client.complaint] at hn
      | ok pact => exact (ih hks).map fun p => rfl

/-! ### Passes -/

theorem follows_diagnosis {c : Client} {tag : Option String} :
    (c.shownListingUrl provider tag >>= fun url =>
        .done (.failed (.noPactsFound provider (tag.getD Consumer.latest) url))).Follows world
      s.fatal [s.diagnosisStep world provider c tag] := by
  constructor
  · rw [Session.requests_bind, Client.requests_shownListingUrl, cut_singleton]
    rfl
  · rw [Session.result_bind, failure_cons, failure_nil, Option.or_none, diagnosisStep]
    by_cases ht : s.tags = []
    · simp [fatal, Progress.failed, tolerates, ht, Client.result_shownListingUrl]
    · simp [fatal, Progress.failed, tolerates, ht]

/-- The consumers of a client of the settings have URLs that read back. -/
theorem ReadsBack.href (h : s.ReadsBack world lookup) {c : Client} (hc : s.client lookup = .ok c)
    {tag : Option String} {ks : List Consumer} (hk : c.found world provider tag = .ok ks) :
    ∀ k ∈ ks, ∃ url, Url.parse k.href = .ok url ∧ url.text = k.href := by
  intro k hmem
  obtain ⟨r, doc, hdoc, entry, hentry, href, url, hhref, hurl, htext⟩ := Client.mem_found hk hmem
  refine ⟨url, ?_, htext.symm⟩
  rw [htext]
  exact h c hc r doc hdoc entry hentry href url hhref hurl

theorem follows_pass (h : s.ReadsBack world lookup) (tag : Option String) :
    (s.pass lookup provider tag).Follows world s.fatal (s.passSteps world lookup provider tag) := by
  rw [pass, passSteps]
  cases hc : s.client lookup with
  | error e => exact .stuck rfl rfl
  | ok c =>
    refine Client.follows_consumersOf.bind ?_ ?_
    · intro e he
      rw [Client.result_consumersOf] at he ⊢
      cases hf : c.found world provider tag with
      | error e' =>
        rw [hf] at he
        cases he
        exact ⟨_, rfl, rfl⟩
      | ok ks => simp [hf, Client.complaint] at he
    · intro hn
      rw [Client.result_consumersOf] at hn ⊢
      cases hf : c.found world provider tag with
      | error e => simp [hf, Client.complaint] at hn
      | ok ks =>
        rw [listedSteps, hf]
        by_cases hnone : s.failIfNone ∧ ks = []
        · have hk : Inclusion.filter lookup s.consumers ks = [] := by
            rw [hnone.2]
            exact List.sublist_nil.1 (Inclusion.keep_sublist _ _)
          simp only [if_pos hnone, hk, List.map_nil, List.append_nil]
          exact follows_diagnosis
        · simp only [if_neg hnone, List.nil_append]
          refine follows_download fun k hk => ?_
          exact h.href hc hf k ((Inclusion.keep_sublist _ _).subset hk)

theorem follows_passes (h : s.ReadsBack world lookup) (tags : List (Option String)) :
    (s.passes lookup provider tags).Follows world Progress.failure
      (tags.flatMap (s.passSteps world lookup provider)) := by
  induction tags with
  | nil => exact .nothing _ rfl
  | cons tag tags ih =>
    rw [passes, List.flatMap_cons]
    refine (follows_pass h tag).bind ?_ ?_
    · intro e he
      obtain ⟨hf, ht⟩ := Option.filter_eq_some_iff.1 he
      refine ⟨(s.pass lookup provider tag).result world, ?_, hf⟩
      simp only [hf]
      rw [if_neg (by simpa using ht)]
      rfl
    · intro hn
      cases hf : ((s.pass lookup provider tag).result world).failure with
      | none =>
        exact ih.map fun p => p.failure_after _
      | some e =>
        have ht : s.tolerates e = true := by simpa [fatal, hf] using hn
        simp only [if_pos ht]
        exact ih.map fun p => p.failure_after _

/-! ### What is in a plan -/

theorem mem_listedSteps {c : Client} {tag : Option String} {step : Step}
    (hs : step ∈ s.listedSteps world lookup provider c tag) :
    step = s.diagnosisStep world provider c tag ∨
      ∃ k, s.Counts lookup k ∧ step = Consumer.pactStep world k := by
  rw [listedSteps] at hs
  cases hf : c.found world provider tag with
  | error e => simp [hf] at hs
  | ok ks =>
    rw [hf] at hs
    rcases List.mem_append.1 hs with hs | hs
    · split at hs
      · exact .inl (List.mem_singleton.1 hs)
      · cases hs
    · obtain ⟨k, hk, rfl⟩ := List.mem_map.1 hs
      exact .inr ⟨k, Inclusion.counts_of_mem_filter hk, rfl⟩

/-- A pass asks for at most one listing. -/
theorem countP_listing_passSteps_le (tag : Option String) :
    (s.passSteps world lookup provider tag).countP (·.purpose = .listing) ≤ 1 := by
  rw [passSteps]
  cases s.client lookup with
  | error e => simp
  | ok c =>
    have hsearch : (c.searchSteps world provider tag).countP (·.purpose = .listing) ≤ 1 := by
      rw [Client.searchSteps]
      split <;> simp [Client.indexStep, Client.listingStep]
    have hrest : ∀ step ∈ s.listedSteps world lookup provider c tag, step.purpose ≠ .listing := by
      intro step hs
      rcases mem_listedSteps hs with rfl | ⟨k, -, rfl⟩
      · simp [diagnosisStep]
      · simp [Consumer.pactStep]
    have hzero : (s.listedSteps world lookup provider c tag).countP (·.purpose = .listing) = 0 := by
      rw [List.countP_eq_zero]
      simpa using hrest
    show (s.clientSteps world lookup provider c tag).countP _ ≤ 1
    rw [clientSteps, List.countP_append, hzero]
    exact hsearch

/-- A pass asks only for the pacts of consumers that count. -/
theorem counts_of_mem_passSteps {tag : Option String} {step : Step}
    (hs : step ∈ s.passSteps world lookup provider tag) {k : Consumer}
    (hk : step.purpose = .pact k) :
    step.url? = some k.href ∧ s.Counts lookup k := by
  rw [passSteps] at hs
  cases hc : s.client lookup with
  | error e => simp_all
  | ok c =>
    rw [hc] at hs
    rcases List.mem_append.1 hs with hs | hs
    · rcases Client.purpose_of_mem_searchSteps hs with h | h <;> simp [h] at hk
    · rcases mem_listedSteps hs with rfl | ⟨k', hcounts, rfl⟩
      · simp [diagnosisStep] at hk
      · cases hk
        exact ⟨rfl, hcounts⟩

end BrokerSettings

namespace Progress

/-- The failure that a result stands for. -/
def failureOf : Except LoadError (List Pact) → Option LoadError
  | .ok _ => none
  | .error error => some error

theorem eq_error_of_failureOf {result : Except LoadError (List Pact)} {e : LoadError}
    (h : failureOf result = some e) : result = .error e := by
  cases result <;> cases h
  rfl

theorem failureOf_result (p : Progress) : failureOf p.result = p.failure := by
  rw [result]
  cases p.failure <;> rfl

end Progress

/-- **A load makes the requests of its plan.**  A load that succeeds asks for everything in its
plan, and a load that fails for everything up to the step that fails, whose failure it reports.  In
a plan there is at most one listing for every pass, and there are no pacts but those of consumers
that count. -/
theorem BrokerLoader.requests_load (l : BrokerLoader) (named : Lookup) (provider : String)
    (h : l.settings.ReadsBack world (l.lookup named)) :
    let load := l.load named provider
    let plan := l.settings.plan world (l.lookup named) provider
    (∀ pacts, (load.result world).2 = .ok pacts →
      (load.requests world).map (·.url.text) = urls plan ∧ ∀ step ∈ plan, step.failure = none) ∧
    (∀ e, (load.result world).2 = .error e →
      ∃ front step back, plan = front ++ step :: back ∧
        (load.requests world).map (·.url.text) = urls (front ++ [step]) ∧
        (∀ earlier ∈ front, earlier.failure = none) ∧ step.failure = some e) ∧
    (∀ tag ∈ l.settings.passTags (l.lookup named),
      (l.settings.passSteps world (l.lookup named) provider tag).countP
        (·.purpose = .listing) ≤ 1) ∧
    ∀ step ∈ plan, ∀ k, step.purpose = .pact k →
      step.url? = some k.href ∧ l.settings.Counts (l.lookup named) k := by
  intro load plan
  have hfollows : load.Follows world (fun r => Progress.failureOf r.2) plan :=
    (BrokerSettings.follows_passes h _).map fun p => p.failureOf_result
  have hfailed := hfollows.failed
  have hasked := hfollows.asked
  refine ⟨?_, ?_, ?_, ?_⟩
  · intro pacts hr
    rw [hr] at hfailed
    rw [Plan.cut_eq_self hfailed.symm] at hasked
    exact ⟨hasked, List.findSome?_eq_none_iff.1 hfailed.symm⟩
  · intro e hr
    rw [hr] at hfailed
    obtain ⟨front, step, back, hplan, hcut, hfront, hstep⟩ := Plan.cut_of_failure hfailed.symm
    rw [hcut] at hasked
    exact ⟨front, step, back, hplan, hasked, hfront, hstep⟩
  · intro tag _
    exact l.settings.countP_listing_passSteps_le tag
  · intro step hstep k hk
    obtain ⟨tag, -, hs⟩ := List.mem_flatMap.1 hstep
    exact BrokerSettings.counts_of_mem_passSteps hs hk

end Following

/-! ### A broker with two consumers of which one counts -/

namespace Sample

/-- Settings for the pacts of the consumer `web` with the tag `v1`. -/
def settings : BrokerSettings :=
  { BrokerSettings.default with host := "broker", tags := ["v1"], consumers := ["web"] }

/-- The documents of a broker with the consumers `web` and `shop`. -/
def documents : List (String × Json) :=
  [("http://broker/", .obj [("_links", .obj [(Client.taggedRel,
      .obj [("href", .str "/{tag}"), ("templated", .bool true)])])]),
    ("http://broker/v1", .obj [("_links", .obj [(Client.pactsRel,
      .arr [.obj [("name", .str "web"), ("href", .str "web.json")],
        .obj [("name", .str "shop"), ("href", .str "shop.json")]])])]),
    ("http://broker/web.json", .obj [("consumer", .obj [("name", .str "web")]),
      ("provider", .obj [("name", .str "store")])])]

/-- A loader of the pacts. -/
def loader : BrokerLoader := .ofSettings settings

/-- The broker that gives out the documents. -/
def broker : Request → Reply := Session.publishing documents

/-- What the broker lists reads back. -/
theorem readsBack : loader.settings.ReadsBack broker (loader.lookup .empty) := by
  have hcheck : ∀ c ∈ (loader.settings.client (loader.lookup .empty)).toOption,
      ∀ p ∈ documents, ∀ entry ∈ Links.entries p.2 Client.pactsRel,
        ∀ href ∈ (entry.get? "href").bind Json.str?,
          ∀ url ∈ (Url.resolve c.baseUrl href).toOption,
            (Url.parse url.text).toOption = some url := by
    decide +kernel
  intro c hc r doc hdoc entry hentry href url hhref hurl
  have hparse := hcheck c (congrArg Except.toOption hc) _ (Session.mem_of_publishing hdoc) entry
    hentry href hhref url (congrArg Except.toOption hurl)
  cases hp : Url.parse url.text with
  | error defect => simp [hp, Except.toOption] at hparse
  | ok url' =>
    rw [hp] at hparse
    exact congrArg Except.ok (Option.some.inj hparse)

end Sample

/-- A load of the sample asks for the broker's document, for the listing of the tag and for the pact
of the consumer that counts. -/
theorem BrokerLoader.requests_load_sample :
    Sample.loader.settings.ReadsBack Sample.broker (Sample.loader.lookup .empty) ∧
      ((Sample.loader.load .empty "store").requests Sample.broker).map (·.url.text) =
        ["http://broker/", "http://broker/v1", "http://broker/web.json"] := by
  refine ⟨Sample.readsBack, ?_⟩
  have hok : ((Sample.loader.load .empty "store").result Sample.broker).2.toOption.isSome := by
    decide +kernel
  have hplan : urls (Sample.loader.settings.plan Sample.broker (Sample.loader.lookup .empty)
      "store") = ["http://broker/", "http://broker/v1", "http://broker/web.json"] := by
    decide +kernel
  have hload := Sample.loader.requests_load .empty "store" Sample.readsBack
  cases hr : ((Sample.loader.load .empty "store").result Sample.broker).2 with
  | error e => simp [hr, Except.toOption] at hok
  | ok pacts =>
    rw [← hplan]
    exact (hload.1 pacts hr).1

end Pacts
