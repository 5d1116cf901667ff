import Pacts.Load.Broker
import Pacts.Proofs.Broker.Conversation
import Pacts.Proofs.Placeholder.Keys

/-!
# What a load wants to know from its lookup

The texts of the settings are expanded in four places and some of them again for every tag, but
always as they stand in the settings.  A load therefore only ever looks up the keys of these texts:
`collect_congr` says that lookups that agree on them make the same load, with the same requests.

`run_resolve_congr` is the result.  What it rules out is that a value is taken for a setting in
turn: a key that stands only in the value of another one can be bound to anything
(`AgreeOn.rebind`).
-/

set_option autoImplicit false

namespace Pacts

open Lookup (AgreeOn)

/-- The lookup in which a key is bound to another value, or to none. -/
def Lookup.rebind (key : String) (value : Option String) (lookup : Lookup) : Lookup :=
  fun k => if k = key then value else lookup k

theorem Lookup.AgreeOn.rebind {keys : List String} {key : String} (h : key ∉ keys)
    (value : Option String) (lookup : Lookup) :
    AgreeOn keys (lookup.rebind key value) lookup := by
  intro k hk
  have hne : k ≠ key := fun e => h (e ▸ hk)
  exact if_neg hne

/-! ## The texts of the settings -/

/-- The texts of the settings of the credentials. -/
def CredentialSettings.texts (s : CredentialSettings) : List String :=
  s.scheme.toList ++ [s.username, s.password, s.token]

namespace BrokerSettings

/-- The texts of the settings that may hold placeholders. -/
def texts (s : BrokerSettings) : List String :=
  [s.scheme, s.host, s.port] ++ s.tags ++ s.consumers ++
    s.credentials.toList.flatMap CredentialSettings.texts

/-- The keys of the placeholders in the settings. -/
def keys (s : BrokerSettings) : List String := s.texts.flatMap Placeholder.keys

end BrokerSettings

variable {a b : Lookup}

/-- Lookups that agree on the keys of texts agree on those of each. -/
theorem Lookup.AgreeOn.of_mem {texts : List String}
    (h : AgreeOn (texts.flatMap Placeholder.keys) a b) {text : String} (ht : text ∈ texts) :
    AgreeOn (Placeholder.keys text) a b :=
  h.mono fun _ hk => List.mem_flatMap.2 ⟨text, ht, hk⟩

/-! ## The parts of a load -/

theorem Endpoint.ofSettings_congr {scheme host port : String}
    (hs : AgreeOn (Placeholder.keys scheme) a b) (hh : AgreeOn (Placeholder.keys host) a b)
    (hp : AgreeOn (Placeholder.keys port) a b) :
    ofSettings a scheme host port = ofSettings b scheme host port := by
  simp only [ofSettings, expand_congr hs, expand_congr hh, expand_congr hp]

theorem Credentials.ofSettings_congr {s : CredentialSettings}
    (h : AgreeOn (s.texts.flatMap Placeholder.keys) a b) : ofSettings a s = ofSettings b s := by
  have hu : expand a s.username = expand b s.username :=
    expand_congr (h.of_mem (by simp [CredentialSettings.texts]))
  have hp : expand a s.password = expand b s.password :=
    expand_congr (h.of_mem (by simp [CredentialSettings.texts]))
  have ht : expand a s.token = expand b s.token :=
    expand_congr (h.of_mem (by simp [CredentialSettings.texts]))
  have hs : expand a (s.scheme.getD "") = expand b (s.scheme.getD "") := by
    cases hc : s.scheme with
    | none => rfl
    | some scheme => exact expand_congr (h.of_mem (by simp [CredentialSettings.texts, hc]))
  simp only [ofSettings, hs, hu, hp, ht]

namespace BrokerSettings

variable {s : BrokerSettings} {provider : String}

theorem client_congr (h : AgreeOn s.keys a b) : s.client a = s.client b := by
  have hendpoint : Endpoint.ofSettings a s.scheme s.host s.port =
      Endpoint.ofSettings b s.scheme s.host s.port :=
    Endpoint.ofSettings_congr (h.of_mem (by simp [texts])) (h.of_mem (by simp [texts]))
      (h.of_mem (by simp [texts]))
  have hcredentials : Credentials.ofSettings? a s.credentials =
      Credentials.ofSettings? b s.credentials := by
    cases hc : s.credentials with
    | none => rfl
    | some c =>
      refine Credentials.ofSettings_congr (h.mono fun k hk => ?_)
      obtain ⟨text, ht, hk⟩ := List.mem_flatMap.1 hk
      exact List.mem_flatMap.2 ⟨text, by simp [texts, hc, ht], hk⟩
  simp only [client, Client.ofSettings, hendpoint, hcredentials]

theorem passTags_congr (h : AgreeOn s.keys a b) : s.passTags a = s.passTags b := by
  have htags : AgreeOn (s.tags.flatMap Placeholder.keys) a b := by
    refine h.mono fun k hk => ?_
    obtain ⟨text, ht, hk⟩ := List.mem_flatMap.1 hk
    exact List.mem_flatMap.2 ⟨text, by simp [texts, ht], hk⟩
  rw [passTags, passTags, flatMap_expandList_congr htags]

theorem names_congr (h : AgreeOn s.keys a b) :
    Inclusion.names a s.consumers = Inclusion.names b s.consumers := by
  refine flatMap_expandList_congr (h.mono fun k hk => ?_)
  obtain ⟨text, ht, hk⟩ := List.mem_flatMap.1 hk
  exact List.mem_flatMap.2 ⟨text, by simp [texts, ht], hk⟩

theorem pass_congr (h : AgreeOn s.keys a b) (tag : Option String) :
    s.pass a provider tag = s.pass b provider tag := by
  simp only [pass, client_congr h, Inclusion.filter, names_congr h]

theorem passes_congr (h : AgreeOn s.keys a b) (tags : List (Option String)) :
    s.passes a provider tags = s.passes b provider tags := by
  induction tags with
  | nil => rfl
  | cons tag tags ih => simp only [passes, pass_congr h, ih]

/-- **A load looks up the keys of its settings and nothing else.** -/
theorem collect_congr (h : AgreeOn s.keys a b) : s.collect a provider = s.collect b provider := by
  rw [collect, collect, passTags_congr h, passes_congr h]

end BrokerSettings

/-! ## Loads -/

namespace BrokerLoader

theorem resolve_congr {l : BrokerLoader} {provider : String} (h : AgreeOn l.settings.keys a b) :
    l.resolve a provider = l.resolve b provider := by
  rw [resolve, resolve, BrokerSettings.collect_congr h]

/-- **A lookup is asked for the keys of the settings only.**  Two lookups that agree on the keys of
the placeholders in the settings make the same requests, with the same authorization, and come to
the same pacts, the same registry or the same error, whatever the broker answers.  These keys stand
in the settings as they are written; so a key that does not can be bound to anything at all, even
when it stands in a value that was looked up. -/
theorem run_resolve_congr {σ : Type} (answer : σ → Request → Reply × σ) (state : σ)
    (l : BrokerLoader) (provider : String) :
    (∀ a b : Lookup, AgreeOn l.settings.keys a b →
      (l.resolve a provider).run answer state = (l.resolve b provider).run answer state) ∧
    (∀ (lookup : Lookup) (key : String) (value : Option String), key ∉ l.settings.keys →
      (l.resolve (lookup.rebind key value) provider).run answer state =
        (l.resolve lookup provider).run answer state) ∧
    ∀ key ∈ l.settings.keys, ∃ text ∈ l.settings.texts, ∃ front body rest,
      text.toList = front ++ Placeholder.writtenHole body ++ rest ∧ '}' ∉ body ∧
        Placeholder.key body = key := by
  refine ⟨?_, ?_, ?_⟩
  · intro a b h
    rw [resolve_congr h]
  · intro lookup key value hkey
    rw [resolve_congr (AgreeOn.rebind hkey value lookup)]
  · intro key hkey
    obtain ⟨text, ht, hk⟩ := List.mem_flatMap.1 hkey
    exact ⟨text, ht, Placeholder.exists_of_mem_keys hk⟩

/-- A loader whose settings leave the place of the broker to the lookup. -/
def placedByLookup : BrokerLoader := .ofSettings .default

/-- A lookup that gives the host as the text of a placeholder. -/
def placeholderHost : Lookup := (Values.ofList [("pactbroker.host", "${secret}")]).lookup

/-- The broker is asked under the very text that was looked up, and what that text would stand for
does not matter. -/
theorem run_resolve_congr_of_placeholder_host :
    let vault := placeholderHost.rebind "secret" (some "vault")
    AgreeOn placedByLookup.settings.keys vault placeholderHost ∧
      "secret" ∉ placedByLookup.settings.keys ∧
      ((placedByLookup.resolve vault "store").run
        (Session.steady (Session.publishing [])) ()).2.1.map (·.url.text) =
          ["http://${secret}/", "http://${secret}/"] := by
  intro vault
  have hkey : "secret" ∉ placedByLookup.settings.keys := by decide +kernel
  have hagree : AgreeOn placedByLookup.settings.keys vault placeholderHost :=
    AgreeOn.rebind hkey (some "vault") placeholderHost
  have hrun := (run_resolve_congr (Session.steady (Session.publishing [])) () placedByLookup
    "store").1 vault placeholderHost hagree
  refine ⟨hagree, hkey, ?_⟩
  rw [hrun]
  decide +kernel

end BrokerLoader

end Pacts
