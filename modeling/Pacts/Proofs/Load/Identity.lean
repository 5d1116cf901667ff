import Pacts.Proofs.Load.Course

/-!
# A load speaks in one name

A load makes requests in two ways.  To find the consumers it asks as the client that the settings
stand for; to download their pacts it asks with the options that the client left with each consumer,
out of which credentials are made anew.  `authorization_load` says that the broker cannot tell the
two apart: every request of a load comes with the authorization of the credentials of the settings.

`SentAs` says of a session that it only asks with one authorization.  It goes through a `do` block
line by line, so it settles everything a client does.  It does not settle the downloads, whose
authorization depends on what the listing brought; there the course of the load tells where the
consumers came from, and `credentials_of_ends_consumersOf` what they carry along.
-/

set_option autoImplicit false

namespace Pacts

open Session (Talk Ends ends_bind_iff ends_bind_done_iff ends_done_iff ends_request_iff)

/-! ## Sessions with one authorization -/

/-- Whatever comes back, every request is made with the authorization. -/
def SentAs {α : Type} (authorization : Option String) (s : Session α) : Prop :=
  ∀ talk a, Ends s talk a → ∀ x ∈ talk, x.1.authorization = authorization

namespace SentAs

variable {α β : Type} {authorization : Option String}

theorem done (a : α) : SentAs authorization (.done a) := by
  intro talk b h
  obtain ⟨rfl, -⟩ := ends_done_iff.1 h
  simp

theorem request (r : Request) : SentAs r.authorization (Session.request r) := by
  intro talk b h
  obtain ⟨reply, rfl, -⟩ := ends_request_iff.1 h
  simp

theorem bind {s : Session α} {f : α → Session β} (hs : SentAs authorization s)
    (hf : ∀ a, SentAs authorization (f a)) : SentAs authorization (s >>= f) := by
  intro talk b h x hx
  obtain ⟨first, a, second, h₁, h₂, rfl⟩ := ends_bind_iff.1 h
  rcases List.mem_append.1 hx with hx | hx
  · exact hs first a h₁ x hx
  · exact hf a second b h₂ x hx

end SentAs

/-! ## What a client asks for -/

namespace Client

variable (c : Client)

theorem sentAs_get (url : Url) : SentAs c.credentials.header? (c.get url) :=
  SentAs.request ⟨url, c.credentials.header?⟩

theorem sentAs_linkUrl (rel : String) (params : List (String × String)) :
    SentAs c.credentials.header? (c.linkUrl rel params) := by
  refine (c.sentAs_get c.baseUrl).bind fun root => ?_
  cases root <;> exact SentAs.done _

theorem sentAs_listing (rel : String) (params : List (String × String)) :
    SentAs c.credentials.header? (c.listing rel params) := by
  refine (c.sentAs_linkUrl rel params).bind fun url => ?_
  cases url with
  | error e => exact SentAs.done _
  | ok url =>
    refine (c.sentAs_get url).bind fun doc => ?_
    cases doc <;> exact SentAs.done _

theorem sentAs_consumers (rel : String) (params : List (String × String)) :
    SentAs c.credentials.header? (c.consumers rel params) := by
  refine (c.sentAs_listing rel params).bind fun listing => ?_
  split <;> exact SentAs.done _

theorem sentAs_consumersOf (provider : String) (tag : Option String) :
    SentAs c.credentials.header? (c.consumersOf provider tag) := by
  refine (c.sentAs_consumers _ _).bind fun entries => ?_
  cases entries <;> exact SentAs.done _

theorem sentAs_shownListingUrl (provider : String) (tag : Option String) :
    SentAs c.credentials.header? (c.shownListingUrl provider tag) := by
  refine SentAs.bind ?_ fun url => ?_
  · refine (c.sentAs_linkUrl _ _).bind fun url => ?_
    cases url <;> exact SentAs.done _
  · cases url <;> exact SentAs.done _

/-- The consumers that a client finds carry its options along. -/
theorem credentials_of_ends_consumersOf {c : Client} {provider : String} {tag : Option String}
    {talk : Talk} {consumers : List Consumer}
    (h : Ends (c.consumersOf provider tag) talk (.ok consumers)) :
    ∀ k ∈ consumers, k.credentials = c.credentials.options := by
  obtain ⟨first, r, second, -, h₂, rfl⟩ := ends_bind_iff.1 h
  cases r with
  | error e => simp at h₂
  | ok entries =>
    obtain ⟨-, h₂⟩ := ends_done_iff.1 h₂
    obtain rfl : consumers = entries.map (Consumer.ofListed c.credentials.options _) := by
      simpa using h₂
    intro k hk
    obtain ⟨entry, -, rfl⟩ := List.mem_map.1 hk
    rfl

end Client

/-! ## What a load asks for -/

theorem Fetches.authorization {credentials : Credentials} {cs : List Consumer} {talk : Talk}
    {downloads : List (String × Pact)} {failure : Option LoadError}
    (h : Fetches cs talk downloads failure) (hc : ∀ c ∈ cs, c.credentials = credentials.options) :
    ∀ x ∈ talk, x.1.authorization = credentials.header? := by
  have hp : ∀ (c : Consumer) (url : Url), c.credentials = credentials.options →
      (c.pactRequest url).authorization = credentials.header? := by
    intro c url hc
    rw [Consumer.pactRequest, hc, Credentials.header?_ofOptions_options]
  induction h with
  | finished | unreadable => simp
  | refused | spoiled => simpa using hp _ _ (hc _ List.mem_cons_self)
  | got _ _ _ ih =>
    intro x hx
    rcases List.mem_cons.1 hx with rfl | hx
    · exact hp _ _ (hc _ List.mem_cons_self)
    · exact ih (fun c hm => hc c (List.mem_cons_of_mem _ hm)) x hx

variable {s : BrokerSettings} {lookup : Lookup} {provider : String}

theorem BrokerSettings.credentials_of_client {client : Client}
    (h : s.client lookup = .ok client) :
    Credentials.ofSettings? lookup s.credentials = .ok client.credentials := by
  rw [BrokerSettings.client] at h
  cases he : Endpoint.ofSettings lookup s.scheme s.host s.port with
  | error e => simp [he, bind, Except.bind] at h
  | ok endpoint =>
    cases hu : endpoint.url with
    | error e => simp [he, hu, bind, Except.bind] at h
    | ok url =>
      cases hc : Credentials.ofSettings? lookup s.credentials with
      | error e => simp [he, hu, hc, Client.ofSettings, bind, Except.bind] at h
      | ok credentials =>
        obtain rfl : ⟨url, credentials⟩ = client := by
          simpa [he, hu, hc, Client.ofSettings, bind, Except.bind, pure, Except.pure] using h
        rfl

theorem Pass.authorization {tag : Option String} {talk : Talk}
    {downloads : List (String × Pact)} {failure : Option LoadError}
    (h : Pass s lookup provider tag talk downloads failure) :
    ∀ x ∈ talk, ∃ credentials, Credentials.ofSettings? lookup s.credentials = .ok credentials ∧
      x.1.authorization = credentials.header? := by
  cases h with
  | unconfigured => simp
  | @unlisted client _ _ hc hl =>
    exact fun x hx => ⟨_, s.credentials_of_client hc, client.sentAs_consumersOf _ _ _ _ hl x hx⟩
  | @nobody client _ _ _ hc _ hl hu =>
    intro x hx
    refine ⟨_, s.credentials_of_client hc, ?_⟩
    rcases List.mem_append.1 hx with hx | hx
    · exact client.sentAs_consumersOf _ _ _ _ hl x hx
    · exact client.sentAs_shownListingUrl _ _ _ _ hu x hx
  | @listed client _ _ consumers _ _ hc hl _ hf =>
    intro x hx
    refine ⟨_, s.credentials_of_client hc, ?_⟩
    rcases List.mem_append.1 hx with hx | hx
    · exact client.sentAs_consumersOf _ _ _ _ hl x hx
    · have hk := Client.credentials_of_ends_consumersOf hl
      exact hf.authorization (fun c hm => hk c ((Inclusion.keep_sublist _ _).subset hm)) x hx

theorem Course.authorization {tags : List (Option String)} {talk : Talk}
    {downloads : List (String × Pact)} {failure : Option LoadError}
    (h : Course s lookup provider tags talk downloads failure) :
    ∀ x ∈ talk, ∃ credentials, Credentials.ofSettings? lookup s.credentials = .ok credentials ∧
      x.1.authorization = credentials.header? := by
  induction h with
  | finished => simp
  | stopped hp => exact hp.authorization
  | onward hp _ _ ih =>
    intro x hx
    rcases List.mem_append.1 hx with hx | hx
    · exact hp.authorization x hx
    · exact ih x hx

/-- **One identity per load.**  Whatever the broker answers, every request of a load is made with
the authorization of the credentials that the settings stand for; if they stand for none, nothing is
asked for. -/
theorem BrokerLoader.authorization_load {σ : Type} (answer : σ → Request → Reply × σ) (state : σ)
    (l : BrokerLoader) (named : Lookup) (provider : String) :
    let requests := ((l.load named provider).run answer state).2.1
    match Credentials.ofSettings? (l.lookup named) l.settings.credentials with
    | .ok credentials =>
      requests.map Request.authorization = List.replicate requests.length credentials.header?
    | .error _ => requests = [] := by
  intro requests
  have hr : ∀ r ∈ requests, ∃ credentials,
      Credentials.ofSettings? (l.lookup named) l.settings.credentials = .ok credentials ∧
        r.authorization = credentials.header? := by
    intro r hr
    obtain ⟨progress, hp, -⟩ :=
      ends_bind_done_iff.1 (Session.ends_talk answer (l.load named provider) state)
    rw [show requests = _ from Session.requests_eq_map_talk answer _ state] at hr
    obtain ⟨x, hx, rfl⟩ := List.mem_map.1 hr
    exact (BrokerSettings.ends_collect_iff.1 hp).authorization x hx
  cases hc : Credentials.ofSettings? (l.lookup named) l.settings.credentials with
  | error e =>
    refine List.eq_nil_iff_forall_not_mem.2 fun r h => ?_
    obtain ⟨credentials, h', -⟩ := hr r h
    simp [hc] at h'
  | ok credentials =>
    refine List.eq_replicate_iff.2 ⟨List.length_map _, ?_⟩
    intro a ha
    obtain ⟨r, h, rfl⟩ := List.mem_map.1 ha
    obtain ⟨_, h', hq⟩ := hr r h
    obtain rfl : credentials = _ := by simpa [hc] using h'
    exact hq

end Pacts
