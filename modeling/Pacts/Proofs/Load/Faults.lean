import Pacts.Proofs.Broker.Endpoints
import Pacts.Proofs.Broker.Search
import Pacts.Proofs.Broker.Selection
import Pacts.Proofs.Load.Accumulation

/-!
# Settings that make no sense

Before a pass asks for anything it makes sense of the settings: of the host, then of the port, then
of the URL that they make up and at last of the credentials.  It does so again for every tag, when
earlier passes may have made requests and may have found pacts.  A failure of this kind nevertheless
stands alone: it is that of the first pass, so nothing was asked for and nothing is kept.

* `BrokerSettings.Fault` — what is wrong with settings, in the order in which it is found, and
  `BrokerSettings.client_eq_error_iff`.
* `BrokerSettings.collect_of_fault` — a load with settings that make no sense does nothing.
* `Course.fault` — in the other direction, the only failures of a load that blame the settings are
  these.  Nothing that is read out of a document does so, and what comes back does so only when it
  is such an error itself (`Client.Search.failed_mem`, `Fetches.failed_mem`).
* `BrokerLoader.load_of_fault` — both for the load of a loader.  The other direction is about
  machines that do not blame the settings (`Session.Blameless`), and `BrokerLoader.load_of_blaming`
  is a load against one that does.  Over HTTP nobody is blamed (`Http.blameless_exchange`).
-/

set_option autoImplicit false

namespace Pacts

open Session (Talk Ends ends_bind_done_iff)

/-! ## What is wrong with settings -/

theorem BrokerError.isConfiguration_iff {e : BrokerError} :
    e.isConfiguration = true ↔
      (∃ host, e = .invalidHost host) ∨ (∃ port, e = .invalidPort port) ∨
        e = .invalidAuthentication := by
  cases e <;> simp [isConfiguration]

theorem Endpoint.isComplaint_of_url {endpoint : Endpoint} {e : BrokerError}
    (h : endpoint.url = .error e) : e.isComplaint = true := by
  rw [url] at h
  repeat' split at h
  all_goals first | (cases h; rfl) | cases h

theorem Credentials.eq_invalidAuthentication {lookup : Lookup}
    {settings : Option CredentialSettings} {e : BrokerError}
    (h : ofSettings? lookup settings = .error e) : e = .invalidAuthentication := by
  cases ofSettings?_eq_iff.1 h with
  | nothing => rfl

namespace BrokerSettings

/-- What is wrong with settings: whatever comes first in the order of the constructors. -/
inductive Fault (s : BrokerSettings) (lookup : Lookup) : BrokerError → Prop
  | host (host : trimmed (expand lookup s.host) = "") : Fault s lookup (.invalidHost s.host)
  | port (host : trimmed (expand lookup s.host) ≠ "")
      (port : ¬ (trimmed (expand lookup s.port)).toList.all Char.isDigit) :
      Fault s lookup (.invalidPort s.port)
  | url {endpoint : Endpoint} {e : BrokerError}
      (place : Endpoint.ofSettings lookup s.scheme s.host s.port = .ok endpoint)
      (url : endpoint.url = .error e) : Fault s lookup e
  | credentials {endpoint : Endpoint} {url : Url} {e : BrokerError}
      (place : Endpoint.ofSettings lookup s.scheme s.host s.port = .ok endpoint)
      (url : endpoint.url = .ok url)
      (credentials : Credentials.ofSettings? lookup s.credentials = .error e) : Fault s lookup e

variable {s : BrokerSettings} {lookup : Lookup} {provider : String}

theorem client_eq_error_iff {e : BrokerError} : s.client lookup = .error e ↔ s.Fault lookup e := by
  rw [client, bind_eq_error_iff, Endpoint.ofSettings_eq_error_iff]
  constructor
  · rintro ((⟨hh, rfl⟩ | ⟨hh, hp, rfl⟩) | ⟨endpoint, hplace, h⟩)
    · exact .host hh
    · exact .port hh hp
    · rcases bind_eq_error_iff.1 h with h | ⟨url, hurl, h⟩
      · exact .url hplace h
      · rcases bind_eq_error_iff.1 h with h | ⟨credentials, -, h⟩
        · exact .credentials hplace hurl h
        · cases h
  · rintro (hh | ⟨hh, hp⟩ | ⟨hplace, hurl⟩ | ⟨hplace, hurl, hc⟩)
    · exact .inl (.inl ⟨hh, rfl⟩)
    · exact .inl (.inr ⟨hh, hp, rfl⟩)
    · exact .inr ⟨_, hplace, bind_eq_error_iff.2 (.inl hurl)⟩
    · refine .inr ⟨_, hplace, bind_eq_error_iff.2 (.inr ⟨_, hurl, ?_⟩)⟩
      exact bind_eq_error_iff.2 (.inl hc)

/-- Something is wrong with settings exactly when one of the steps that make sense of them fails. -/
theorem exists_fault_iff :
    (∃ e, s.Fault lookup e) ↔
      (∃ e, Endpoint.ofSettings lookup s.scheme s.host s.port = .error e) ∨
      (∃ endpoint e, Endpoint.ofSettings lookup s.scheme s.host s.port = .ok endpoint ∧
        endpoint.url = .error e) ∨
      ∃ e, Credentials.ofSettings? lookup s.credentials = .error e := by
  constructor
  · rintro ⟨e, hh | ⟨hh, hp⟩ | ⟨hplace, hurl⟩ | ⟨hplace, hurl, hc⟩⟩
    · exact .inl ⟨_, Endpoint.ofSettings_eq_error_iff.2 (.inl ⟨hh, rfl⟩)⟩
    · exact .inl ⟨_, Endpoint.ofSettings_eq_error_iff.2 (.inr ⟨hh, hp, rfl⟩)⟩
    · exact .inr (.inl ⟨_, _, hplace, hurl⟩)
    · exact .inr (.inr ⟨_, hc⟩)
  · rintro (⟨e, he⟩ | ⟨endpoint, e, hplace, he⟩ | ⟨e, he⟩)
    · exact ⟨e, client_eq_error_iff.1 (bind_eq_error_iff.2 (.inl he))⟩
    · exact ⟨e, .url hplace he⟩
    · cases hplace : Endpoint.ofSettings lookup s.scheme s.host s.port with
      | error e' => exact ⟨e', client_eq_error_iff.1 (bind_eq_error_iff.2 (.inl hplace))⟩
      | ok endpoint =>
        cases hurl : endpoint.url with
        | error e' => exact ⟨e', .url hplace hurl⟩
        | ok url => exact ⟨e, .credentials hplace hurl he⟩

/-- What is wrong with settings is not that something is missing. -/
theorem Fault.ne_notFound {e : BrokerError} (h : s.Fault lookup e) (url : String) :
    e ≠ .notFound url := by
  cases h with
  | host | port => simp
  | url _ hurl =>
    exact BrokerError.ne_notFound_of_isComplaint (Endpoint.isComplaint_of_url hurl) url
  | credentials _ _ he => simp [Credentials.eq_invalidAuthentication he]

/-! ## A load with settings that make no sense -/

theorem passTags_ne_nil_iff :
    s.passTags lookup ≠ [] ↔ s.tags = [] ∨ s.tags.flatMap (expandList lookup) ≠ [] := by
  rw [passTags]
  split
  · rename_i ht
    simp [ht]
  · rename_i ht
    simp [ht]

/-- The first pass fails for what is wrong, and there is no other. -/
theorem collect_of_fault {e : BrokerError} (h : s.Fault lookup e)
    (htags : s.passTags lookup ≠ []) :
    s.collect lookup provider = .done (.failed (.broker e)) := by
  obtain ⟨tag, tags, ht⟩ := List.exists_cons_of_ne_nil htags
  rw [collect, ht, passes, pass, client_eq_error_iff.2 h]
  rfl

end BrokerSettings

/-! ## Failures that blame the settings -/

section Course

variable {s : BrokerSettings} {lookup : Lookup} {provider : String}

/-- A download does not blame the settings, unless it was told to. -/
theorem Fetches.failed_mem {cs : List Consumer} {talk : Talk} {downloads : List (String × Pact)}
    {failure : Option LoadError} (h : Fetches cs talk downloads failure) {e : LoadError}
    (he : failure = some e) (hc : e.isConfiguration = true) :
    ∃ fault r, e = .broker fault ∧ (r, .failed fault) ∈ talk := by
  induction h with
  | finished => cases he
  | got _ _ _ ih =>
    obtain ⟨fault, r, he, hr⟩ := ih he
    exact ⟨fault, r, he, List.mem_cons_of_mem _ hr⟩
  | unreadable | spoiled =>
    cases he
    cases hc
  | refused _ answer =>
    cases he
    rw [Reply.eq_failed answer hc]
    exact ⟨_, _, rfl, List.mem_singleton_self _⟩

/-- A pass that blames the settings does so for what is wrong with them, or because it was told
to. -/
theorem Pass.fault {tag : Option String} {talk : Talk} {downloads : List (String × Pact)}
    {e : LoadError} (h : Pass s lookup provider tag talk downloads (some e))
    (hc : e.isConfiguration = true) :
    ∃ fault, e = .broker fault ∧ (s.Fault lookup fault ∨ ∃ r, (r, .failed fault) ∈ talk) := by
  cases h with
  | unconfigured hs => exact ⟨_, rfl, .inl (BrokerSettings.client_eq_error_iff.1 hs)⟩
  | unlisted _ hl => exact ⟨_, rfl, .inr ((Client.ends_consumersOf_iff.1 hl).failed_mem hc)⟩
  | nobody => cases hc
  | listed _ _ _ hf =>
    obtain ⟨fault, r, he, hr⟩ := hf.failed_mem rfl hc
    exact ⟨fault, he, .inr ⟨r, List.mem_append_right _ hr⟩⟩

/-- However many passes there are, what is wrong with the settings is so for the first one
already. -/
theorem Course.fault {tags : List (Option String)} {talk : Talk}
    {downloads : List (String × Pact)} {failure : Option LoadError}
    (h : Course s lookup provider tags talk downloads failure) {e : LoadError}
    (he : failure = some e) (hc : e.isConfiguration = true) :
    tags ≠ [] ∧
      ∃ fault, e = .broker fault ∧ (s.Fault lookup fault ∨ ∃ r, (r, .failed fault) ∈ talk) := by
  induction h with
  | finished => cases he
  | stopped hp =>
    cases he
    exact ⟨List.cons_ne_nil _ _, hp.fault hc⟩
  | onward _ _ _ ih =>
    obtain ⟨-, fault, he, hf⟩ := ih he
    exact ⟨List.cons_ne_nil _ _, fault, he,
      hf.imp_right fun ⟨r, hr⟩ => ⟨r, List.mem_append_right _ hr⟩⟩

end Course

/-! ## Loads -/

namespace BrokerLoader

theorem load_of_collect_eq_done {l : BrokerLoader} {named : Lookup} {provider : String}
    {p : Progress} (h : l.settings.collect (l.lookup named) provider = .done p) :
    l.load named provider = .done (l.keep p.downloads, p.result) := by
  rw [load_eq, h]
  rfl

/-- **Settings that make no sense stop a load before it asks for anything.**  When the host, the
port, the URL or the credentials of the settings stand for nothing, a load that makes a pass at all
fails for the first of these, whatever machine might have answered; nothing was asked for, and the
loader is as it was.  In the other direction, unless the machine that answers blames the settings
itself, a load that blames them does so for the host, the port or the credentials, and again nothing
was asked for and the loader is as it was. -/
theorem load_of_fault {σ : Type} (answer : σ → Request → Reply × σ) (state : σ) (l : BrokerLoader)
    (named : Lookup) (provider : String) :
    let s := l.settings
    let lookup := l.lookup named
    let load := (l.load named provider).run answer state
    ((s.tags = [] ∨ s.tags.flatMap (expandList lookup) ≠ []) →
      ((∃ e, s.Fault lookup e) ↔
        (∃ e, Endpoint.ofSettings lookup s.scheme s.host s.port = .error e) ∨
        (∃ endpoint e, Endpoint.ofSettings lookup s.scheme s.host s.port = .ok endpoint ∧
          endpoint.url = .error e) ∨
        ∃ e, Credentials.ofSettings? lookup s.credentials = .error e) ∧
      ∀ e, s.Fault lookup e → load = ((l, .error (.broker e)), [], state)) ∧
    (Session.Blameless answer → ∀ e, load.1.2 = .error e → e.isConfiguration = true →
      ∃ fault, e = .broker fault ∧
        ((∃ host, fault = .invalidHost host) ∨ (∃ port, fault = .invalidPort port) ∨
          fault = .invalidAuthentication) ∧
        s.Fault lookup fault ∧ load = ((l, .error e), [], state)) := by
  intro s lookup load
  have hload : ∀ e, s.Fault lookup e → s.passTags lookup ≠ [] →
      load = ((l, .error (.broker e)), [], state) := by
    intro e he htags
    have hl : l.load named provider = .done (l, .error (.broker e)) :=
      load_of_collect_eq_done (BrokerSettings.collect_of_fault he htags)
    show (l.load named provider).run answer state = _
    rw [hl]
    rfl
  refine ⟨?_, ?_⟩
  · intro htags
    refine ⟨BrokerSettings.exists_fault_iff, ?_⟩
    intro e he
    exact hload e he (BrokerSettings.passTags_ne_nil_iff.2 htags)
  · intro hblameless e he hc
    obtain ⟨p, hp, -, hr⟩ := loaded_load (Session.ends_talk answer (l.load named provider) state)
    have hf : p.failure = some e := Progress.result_eq_error_iff.1 (hr.symm.trans he)
    obtain ⟨htags, fault, rfl, hfault | ⟨r, hblaming⟩⟩ := hp.fault hf hc
    · exact ⟨fault, rfl, BrokerError.isConfiguration_iff.1 hc, hfault, hload fault hfault htags⟩
    · have hnot : fault.isConfiguration = false :=
        hblameless.isConfiguration_of_mem_talk hblaming
      cases hnot.symm.trans hc

/-- A loader for two tags whose settings leave the host to the lookup. -/
def withoutHost : BrokerLoader := ofSettings { BrokerSettings.default with tags := ["v1", "v2"] }

/-- When the lookup has no host, a load fails for the setting of the host, whatever the broker would
have answered; and from a failure of this kind it can be told that nothing was asked for. -/
theorem load_of_fault_without_host :
    let answer := Session.steady (Session.publishing [])
    let load := (withoutHost.load .empty "store").run answer ()
    let fault := BrokerError.invalidHost "${pactbroker.host:}"
    withoutHost.settings.tags.flatMap (expandList .empty) ≠ [] ∧
      withoutHost.settings.Fault .empty fault ∧
      load = ((withoutHost, .error (.broker fault)), [], ()) ∧
      Session.Blameless answer ∧ load.1.2 = .error (.broker fault) ∧ fault.isConfiguration = true ∧
      load = ((withoutHost, load.1.2), [], ()) := by
  intro answer load fault
  have htags : withoutHost.settings.tags.flatMap (expandList .empty) ≠ [] := by decide +kernel
  have hfault : withoutHost.settings.Fault .empty fault := .host (by decide +kernel)
  have hblameless : Session.Blameless answer := Session.blameless_publishing []
  obtain ⟨hstop, hblamed⟩ := load_of_fault answer () withoutHost .empty "store"
  have hload : load = ((withoutHost, .error (.broker fault)), [], ()) :=
    (hstop (.inr htags)).2 fault hfault
  have hresult : load.1.2 = .error (.broker fault) := by rw [hload]
  obtain ⟨-, -, -, -, hnothing⟩ := hblamed hblameless (.broker fault) hresult rfl
  exact ⟨htags, hfault, hload, hblameless, hresult, rfl, hresult ▸ hnothing⟩

/-- A machine that refuses every request for the credentials in the settings. -/
def blaming (_ : Unit) (_ : Request) : Reply × Unit := (.failed .invalidAuthentication, ())

/-- A loader whose settings make sense. -/
def sound : BrokerLoader := ofSettings { BrokerSettings.default with host := "broker" }

/-- **A machine may blame the settings when nothing is wrong with them.**  Then the load does so
too, although it has asked for something. -/
theorem load_of_blaming :
    let load := (sound.load .empty "store").run blaming ()
    load.1.2 = .error (.broker .invalidAuthentication) ∧
      (LoadError.broker .invalidAuthentication).isConfiguration = true ∧
      load.2.1.map (·.url.text) = ["http://broker/"] ∧
      ∀ e, ¬ sound.settings.Fault (sound.lookup .empty) e := by
  have hresult : ((sound.load .empty "store").run blaming ()).1.2 =
      .error (.broker .invalidAuthentication) := by
    have hblamed : (match ((sound.load .empty "store").run blaming ()).1.2 with
        | .error e => decide (e = .broker .invalidAuthentication)
        | .ok _ => false) = true := by decide +kernel
    cases hr : ((sound.load .empty "store").run blaming ()).1.2 with
    | error e =>
      rw [hr] at hblamed
      rw [of_decide_eq_true hblamed]
    | ok pacts =>
      rw [hr] at hblamed
      cases hblamed
  refine ⟨hresult, rfl, by decide +kernel, fun e he => ?_⟩
  have hclient : (sound.settings.client (sound.lookup .empty)).toOption.isSome = true := by
    decide +kernel
  rw [BrokerSettings.client_eq_error_iff.2 he] at hclient
  cases hclient

end BrokerLoader

end Pacts
