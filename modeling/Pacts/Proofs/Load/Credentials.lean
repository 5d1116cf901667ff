import Pacts.Proofs.Broker.Schemes
import Pacts.Proofs.Load.Identity

/-!
# A load sees what is sent for its credentials, and nothing else

The credentials of the settings go a long way in a load: every pass makes them anew, the client asks
with them, and every consumer that is found carries them along as options for the download of its
pact.  But all that is ever done with them is to send them.  So settings for which the same is sent
make the same load, although the credentials, and the consumers that are found, may be different
ones.

* `Client.listed_congr`, `Client.shownListingUrl_congr` — what a client asks for.
* `BrokerSettings.download_congr` — what is downloaded for consumers with other options.
* `BrokerSettings.collect_withCredentials` — all the passes of a load, as one and the same session.
* `BrokerLoader.sent_of_mem_requests` — in the other direction, what is sent is seen in every
  request.
* `BrokerLoader.load_of_scheme_letters` — what follows for the case of the letters of a scheme.
-/

set_option autoImplicit false

namespace Pacts

open Credentials (sent legacyScheme)

/-- The settings with other credentials. -/
def BrokerSettings.withCredentials (s : BrokerSettings) (credentials : Option CredentialSettings) :
    BrokerSettings :=
  { s with credentials }

/-- The loader with other credentials. -/
def BrokerLoader.withCredentials (l : BrokerLoader) (credentials : Option CredentialSettings) :
    BrokerLoader :=
  { l with settings := l.settings.withCredentials credentials }

/-! ## Clients -/

namespace Client

variable {url : Url} {c d : Credentials}

theorem get_congr (h : c.header? = d.header?) : (mk url c).get = (mk url d).get := by
  funext u
  rw [get, get, h]

theorem linkUrl_congr (h : c.header? = d.header?) : (mk url c).linkUrl = (mk url d).linkUrl := by
  funext rel params
  rw [linkUrl, linkUrl, get_congr h]

theorem listed_congr (h : c.header? = d.header?) : (mk url c).listed = (mk url d).listed := by
  funext provider tag
  rw [listed, listed, consumers, consumers, listing, listing, linkUrl_congr h, get_congr h]

theorem shownListingUrl_congr (h : c.header? = d.header?) :
    (mk url c).shownListingUrl = (mk url d).shownListingUrl := by
  funext provider tag
  rw [shownListingUrl, shownListingUrl, listingUrl, listingUrl, linkUrl_congr h]

theorem pactAt_congr {o o' : List String}
    (h : (Credentials.ofOptions o).header? = (Credentials.ofOptions o').header?) (href : String) :
    pactAt href o = pactAt href o' := by
  rw [pactAt, pactAt, h]

end Client

/-! ## Consumers with other options -/

/-- Whether a consumer counts is seen from the entry of the listing. -/
theorem Inclusion.keep_map_ofListed (names : List String) (o : List String) (tag : Option String)
    (entries : List Listed) :
    keep names (entries.map (Consumer.ofListed o tag)) =
      (if names = [] then entries else entries.filter (names.contains ·.name)).map
        (Consumer.ofListed o tag) := by
  rw [keep]
  split
  · rfl
  · rw [List.filter_map]
    rfl

namespace BrokerSettings

variable {s : BrokerSettings} {lookup : Lookup} {provider : String} {tag : Option String}
  {credentials : Option CredentialSettings}

/-- Downloads for consumers whose options stand for the same are the same. -/
theorem download_congr {o o' : List String}
    (h : (Credentials.ofOptions o).header? = (Credentials.ofOptions o').header?)
    (tag : Option String) (entries : List Listed) :
    download (entries.map (Consumer.ofListed o tag)) =
      download (entries.map (Consumer.ofListed o' tag)) := by
  induction entries with
  | nil => rfl
  | cons entry entries ih =>
    rw [List.map_cons, List.map_cons, download, download, ih]
    simp only [Consumer.ofListed, Client.pactAt_congr h]

/-! ## Passes -/

/-- Settings for which the same is sent stand for clients at the same URL that send the same, or
they are refused for the same reason. -/
theorem client_withCredentials (h : sent lookup credentials = sent lookup s.credentials) :
    (∃ e, s.client lookup = .error e ∧ (s.withCredentials credentials).client lookup = .error e) ∨
      ∃ url c d, s.client lookup = .ok ⟨url, c⟩ ∧
        (s.withCredentials credentials).client lookup = .ok ⟨url, d⟩ ∧ c.header? = d.header? := by
  rw [sent, sent] at h
  simp only [client, withCredentials, Client.ofSettings]
  cases Endpoint.ofSettings lookup s.scheme s.host s.port with
  | error e => exact .inl ⟨e, rfl, rfl⟩
  | ok endpoint =>
    cases hu : endpoint.url with
    | error e => exact .inl ⟨e, by simp [bind, Except.bind, hu], by simp [bind, Except.bind, hu]⟩
    | ok url =>
      cases hd : Credentials.ofSettings? lookup credentials with
      | error e =>
        rw [hd] at h
        have hc := map_eq_error_iff.1 h.symm
        exact .inl ⟨e, by simp [bind, Except.bind, hu, hc], by simp [bind, Except.bind, hu]⟩
      | ok d =>
        rw [hd] at h
        obtain ⟨c, hc, hheader⟩ := map_eq_ok_iff.1 h.symm
        exact .inr ⟨url, c, d, by simp [bind, Except.bind, hu, hc, pure, Except.pure],
          by simp [bind, Except.bind, hu, pure, Except.pure], hheader⟩

theorem pass_withCredentials (h : sent lookup credentials = sent lookup s.credentials) :
    (s.withCredentials credentials).pass lookup provider tag = s.pass lookup provider tag := by
  rcases client_withCredentials h with ⟨e, hc, hd⟩ | ⟨url, c, d, hc, hd, hheader⟩
  · rw [pass, pass, hd, hc]
  · have hoptions : (Credentials.ofOptions d.options).header? =
        (Credentials.ofOptions c.options).header? := by
      rw [Credentials.header?_ofOptions_options, Credentials.header?_ofOptions_options, hheader]
    rw [pass, pass, hd, hc]
    simp only [Client.consumersOf, Session.bind_assoc_eq, Client.listed_congr hheader]
    refine congrArg (_ >>= ·) (funext fun r => ?_)
    cases r with
    | error e => rfl
    | ok entries =>
      simp only [Session.pure_eq, Session.bind_done, List.map_eq_nil_iff,
        Client.shownListingUrl_congr hheader, Inclusion.filter, Inclusion.keep_map_ofListed,
        download_congr hoptions]
      rfl

/-- **Settings for which the same is sent make the same load.** -/
theorem collect_withCredentials (h : sent lookup credentials = sent lookup s.credentials) :
    (s.withCredentials credentials).collect lookup provider = s.collect lookup provider := by
  have hpasses : ∀ tags : List (Option String),
      (s.withCredentials credentials).passes lookup provider tags =
        s.passes lookup provider tags := by
    intro tags
    induction tags with
    | nil => rfl
    | cons tag tags ih =>
      rw [passes, passes, pass_withCredentials h, ih]
      rfl
  exact hpasses _

end BrokerSettings

/-! ## Loads -/

namespace BrokerLoader

variable {σ : Type} {answer : σ → Request → Reply × σ} {state : σ} {l : BrokerLoader}
  {named : Lookup} {provider : String}

theorem run_load :
    (l.load named provider).run answer state =
      (let run := (l.settings.collect (l.lookup named) provider).run answer state
       (({ l with loaded := l.loaded.merge run.1.registry }, run.1.result), run.2)) := by
  rw [load, Session.run_bind]
  simp

/-- A load with other credentials for which the same is sent achieves the same with the same
requests. -/
theorem run_load_withCredentials {credentials : Option CredentialSettings}
    (h : sent (l.lookup named) credentials = sent (l.lookup named) l.settings.credentials) :
    let run := (l.load named provider).run answer state
    ((l.withCredentials credentials).load named provider).run answer state =
      ((run.1.1.withCredentials credentials, run.1.2), run.2) := by
  intro run
  have hcollect : (l.withCredentials credentials).settings.collect (l.lookup named) provider =
      l.settings.collect (l.lookup named) provider :=
    BrokerSettings.collect_withCredentials h
  have hlookup : (l.withCredentials credentials).lookup named = l.lookup named := rfl
  simp only [run, run_load, hlookup, hcollect]
  rfl

/-- Every request of a load sends what is sent for its settings. -/
theorem sent_of_mem_requests {r : Request}
    (h : r ∈ ((l.load named provider).run answer state).2.1) :
    sent (l.lookup named) l.settings.credentials = .ok r.authorization := by
  rw [run_load, Session.requests_eq_map_talk] at h
  obtain ⟨x, hx, rfl⟩ := List.mem_map.1 h
  have hends := Session.ends_talk answer (l.settings.collect (l.lookup named) provider) state
  obtain ⟨credentials, hc, hr⟩ :=
    (BrokerSettings.ends_collect_iff.1 hends).authorization x hx
  rw [sent, hc, hr]
  rfl

/-- **How far the case of the letters of a scheme does not matter.**  A scheme without placeholders
can be written in letters of another case, and the same is sent for the settings, or they are
refused for the same reason; a load then makes the same requests, in which the same is sent, and
comes to the same.  The one exception is `legacy`: when only one of the two is `legacy` in small
letters, something else is sent, and a load that asks for anything shows it in its requests. -/
theorem load_of_scheme_letters {s : CredentialSettings} {scheme : String}
    (plain : hasPlaceholder s.writtenScheme = false)
    (h : sameLetters s.writtenScheme scheme = true) :
    (∀ lookup, sent lookup (some (s.withScheme scheme)) = sent lookup (some s) ↔
      (scheme = legacyScheme ↔ s.writtenScheme = legacyScheme)) ∧
    ∀ (σ : Type) (answer : σ → Request → Reply × σ) (state : σ) (l : BrokerLoader)
      (named : Lookup) (provider : String), l.settings.credentials = some s →
      let run := (l.load named provider).run answer state
      let run' :=
        ((l.withCredentials (some (s.withScheme scheme))).load named provider).run answer state
      ((scheme = legacyScheme ↔ s.writtenScheme = legacyScheme) →
        run'.2 = run.2 ∧ run'.1.2 = run.1.2 ∧ run'.1.1.loaded = run.1.1.loaded) ∧
      (¬ (scheme = legacyScheme ↔ s.writtenScheme = legacyScheme) →
        run.2.1 ≠ [] → run'.2.1 ≠ run.2.1) := by
  refine ⟨fun lookup => Credentials.sent_withScheme_iff plain h, ?_⟩
  intro σ answer state l named provider hs run run'
  have hsent : sent (l.lookup named) (some (s.withScheme scheme)) =
      sent (l.lookup named) l.settings.credentials ↔
        (scheme = legacyScheme ↔ s.writtenScheme = legacyScheme) := by
    rw [hs]
    exact Credentials.sent_withScheme_iff plain h
  constructor
  · intro hlegacy
    have hrun : run' = ((run.1.1.withCredentials _, run.1.2), run.2) :=
      run_load_withCredentials (hsent.2 hlegacy)
    rw [hrun]
    exact ⟨rfl, rfl, rfl⟩
  · intro hlegacy hne he
    obtain ⟨r, hr⟩ := List.exists_mem_of_ne_nil _ hne
    have hone : sent (l.lookup named) l.settings.credentials = .ok r.authorization :=
      sent_of_mem_requests hr
    have hother : sent (l.lookup named) (some (s.withScheme scheme)) = .ok r.authorization :=
      sent_of_mem_requests (l := l.withCredentials _) (he ▸ hr : r ∈ run'.2.1)
    exact hlegacy (hsent.1 (hother.trans hone.symm))

/-- A loader for a broker that knows nothing, with given credentials. -/
def Sample.asking (credentials : CredentialSettings) : BrokerLoader :=
  .ofSettings { BrokerSettings.default with
    host := "pb.local", failIfNone := false, credentials := some credentials }

/-- A scheme `bearer` in letters of mixed case sends its token; a scheme `LEGACY` is not `legacy`. -/
theorem load_of_scheme_letters_of_bearer :
    let s : CredentialSettings := ⟨some "BeArEr", "abc123", "", ""⟩
    let c : CredentialSettings := ⟨some "legacy", "u", "p", ""⟩
    let requests := fun l : BrokerLoader =>
      ((l.load .empty "orders").run (fun n _ => (.missing, n + 1)) 0).2.1
    hasPlaceholder s.writtenScheme = false ∧ sameLetters s.writtenScheme "bearer" = true ∧
      sent .empty (some (s.withScheme "bearer")) = sent .empty (some s) ∧
      requests ((Sample.asking s).withCredentials (some (s.withScheme "bearer"))) =
        requests (Sample.asking s) ∧
      hasPlaceholder c.writtenScheme = false ∧ sameLetters c.writtenScheme "LEGACY" = true ∧
      requests (Sample.asking c) ≠ [] ∧
      requests ((Sample.asking c).withCredentials (some (c.withScheme "LEGACY"))) ≠
        requests (Sample.asking c) := by
  intro s c requests
  have hplain : hasPlaceholder s.writtenScheme = false := by decide
  have hletters : sameLetters s.writtenScheme "bearer" = true := by decide
  have hneither : "bearer" = legacyScheme ↔ s.writtenScheme = legacyScheme := by decide
  have hplain' : hasPlaceholder c.writtenScheme = false := by decide
  have hletters' : sameLetters c.writtenScheme "LEGACY" = true := by decide
  have hone : ¬ ("LEGACY" = legacyScheme ↔ c.writtenScheme = legacyScheme) := by decide
  have hasks : requests (Sample.asking c) ≠ [] := by decide +kernel
  obtain ⟨hsent, hload⟩ := load_of_scheme_letters hplain hletters
  obtain ⟨-, hload'⟩ := load_of_scheme_letters hplain' hletters'
  refine ⟨hplain, hletters, (hsent _).2 hneither, ?_, hplain', hletters', hasks, ?_⟩
  · exact congrArg (·.1) ((hload Nat _ 0 (Sample.asking s) .empty "orders" rfl).1 hneither).1
  · exact (hload' Nat _ 0 (Sample.asking c) .empty "orders" rfl).2 hone hasks

/-- **With a capital, the scheme `legacy` sends nothing**: the broker is asked for the same document,
but it is not told who is asking. -/
theorem capital_legacy_sends_nothing :
    let s : CredentialSettings := ⟨some "legacy", "u", "p", ""⟩
    let told := fun l : BrokerLoader =>
      ((l.load .empty "orders").requests fun _ => .missing).map (·.authorization)
    hasPlaceholder s.writtenScheme = false ∧ sameLetters s.writtenScheme "Legacy" = true ∧
      sent .empty (some s) = .ok (some "Basic dTpw") ∧
      sent .empty (some (s.withScheme "Legacy")) = .ok none ∧
      told (Sample.asking s) = [some "Basic dTpw"] ∧
      told ((Sample.asking s).withCredentials (some (s.withScheme "Legacy"))) = [none] := by
  intro s told
  refine ⟨by decide, by decide, by decide, by decide, ?_, ?_⟩ <;> decide +kernel

end BrokerLoader

end Pacts
