import Pacts.Load.Broker
import Pacts.Proofs.Text.Legible

/-!
# What is shown of a loader

A loader is shown for diagnostics with its settings, and its settings with those of the credentials.
Credentials as a client has them are shown without their secrets, but the settings that they come
from are not, although a password and a token can be written out in them.  All of the settings is
shown, so nothing of them stays hidden.

* `BrokerSettings.legible_shown` — the settings are seen from what is shown of them.
* `BrokerLoader.shown_eq_iff` — which loaders are shown alike.
* `BrokerLoader.secrets_shown` — the password and the token are seen.
-/

set_option autoImplicit false

namespace Pacts

namespace BrokerSettings

variable {α : Type} {shown : α → String}

/-- Something that may be missing is seen when the bracket behind it shows where it ends. -/
theorem legible_shownOption_of_bracket
    (h : ∀ ⦃a b : α⦄ ⦃s t : String⦄, shown a ++ (")" ++ s) = shown b ++ (")" ++ t) → a = b) :
    Legible (shownOption shown) := by
  intro a b s t he
  cases a with
  | none =>
    cases b with
    | none => rfl
    | some b => exact absurd (congrArg String.toList he) (by simp [shownOption])
  | some a =>
    cases b with
    | none => exact absurd (congrArg String.toList he) (by simp [shownOption])
    | some b =>
      simp only [shownOption, String.append_assoc, String.append_right_inj] at he
      rw [h he]

theorem legible_shownOption (h : Legible shown) : Legible (shownOption shown) :=
  legible_shownOption_of_bracket fun _ _ _ _ he => h he

/-- All of the settings of the credentials is seen. -/
theorem legible_shownCredentials : Legible shownCredentials := by
  intro c d s t h
  have hscheme := legible_shownOption legible_quoted
  -- every field is shown so that one sees where it ends, so the fields are the same one by one
  have hfields := fields_eq_of_showRecord (by
    simp only [SameLabels, List.forall₂_cons, List.forall₂_nil_left_iff, and_true,
      hscheme.delimited, legible_quoted.delimited]) h
  simp only [List.cons.injEq, Prod.mk.injEq, true_and, and_true, hscheme.injective.eq_iff,
    quoted_inj] at hfields
  cases c
  cases d
  simpa only [CredentialSettings.mk.injEq] using hfields

/-- **All of the settings is seen**, those of the credentials included. -/
theorem legible_shown : Legible BrokerSettings.shown := by
  intro c d s t h
  have htext := legible_shownOption legible_quoted
  have hcredentials := legible_shownOption legible_shownCredentials
  have hnumber : Legible (shownOption (toString : Nat → String)) :=
    legible_shownOption_of_bracket fun _ _ _ _ => number_append_inj
  have hfields := fields_eq_of_showRecord (by
    simp only [SameLabels, List.forall₂_cons, List.forall₂_nil_left_iff, and_true,
      htext.delimited, legible_quoted.delimited, legible_quotedList.delimited, legible_bool.delimited,
      hcredentials.delimited, hnumber.delimited]) h
  simp only [List.cons.injEq, Prod.mk.injEq, true_and, and_true, htext.injective.eq_iff,
    quoted_inj, legible_quotedList.injective.eq_iff, legible_bool.injective.eq_iff,
    hcredentials.injective.eq_iff, hnumber.injective.eq_iff] at hfields
  cases c
  cases d
  simpa only [BrokerSettings.mk.injEq] using hfields

end BrokerSettings

/-! ## Loaders that differ in their secrets -/

namespace CredentialSettings

/-- The settings with nothing in the fields for secrets. -/
def withoutSecrets (c : CredentialSettings) : CredentialSettings :=
  { c with password := "", token := "" }

/-- The password and the token. -/
def secrets (c : CredentialSettings) : String × String := (c.password, c.token)

/-- The settings are the same when they agree on the secrets and on the rest. -/
theorem eq_iff {c d : CredentialSettings} :
    c = d ↔ c.withoutSecrets = d.withoutSecrets ∧ c.secrets = d.secrets := by
  cases c
  cases d
  simp [withoutSecrets, secrets, and_assoc]

theorem option_eq_iff {c d : Option CredentialSettings} :
    c = d ↔ c.map withoutSecrets = d.map withoutSecrets ∧ c.map secrets = d.map secrets := by
  cases c with
  | none => cases d <;> simp
  | some c =>
    cases d with
    | none => simp
    | some d => simpa using eq_iff

end CredentialSettings

namespace BrokerLoader

variable {l l' : BrokerLoader}

/-- Loaders that agree on all their settings but the password and the token, and on whether there is
a lookup that takes the place of the one in the settings. -/
def AlikeButSecrets (l l' : BrokerLoader) : Prop :=
  { l.settings with
    credentials := l.settings.credentials.map CredentialSettings.withoutSecrets } =
  { l'.settings with
    credentials := l'.settings.credentials.map CredentialSettings.withoutSecrets } ∧
  l.explicit.isSome = l'.explicit.isSome

/-- The password and the token in the settings, where credentials are set. -/
def secrets (l : BrokerLoader) : Option (String × String) :=
  l.settings.credentials.map CredentialSettings.secrets

/-- **Which loaders are shown alike.**  All of the settings is shown, and of the lookup whether there
is one. -/
theorem shown_eq_iff :
    l.shown = l'.shown ↔
      l.settings = l'.settings ∧ l.explicit.isSome = l'.explicit.isSome := by
  refine ⟨fun h => ?_, fun ⟨hsettings, hexplicit⟩ => by rw [shown, shown, hsettings, hexplicit]⟩
  have hfields := fields_eq_of_showRecord (s := "") (t := "") (by
    simp only [SameLabels, List.forall₂_cons, List.forall₂_nil_left_iff, and_true,
      BrokerSettings.legible_shown.delimited, legible_bool.delimited]) (congrArg (· ++ "") h)
  simpa only [List.cons.injEq, Prod.mk.injEq, true_and, and_true,
    BrokerSettings.legible_shown.injective.eq_iff, legible_bool.injective.eq_iff] using hfields

/-- Loaders that agree on everything but their secrets have the same settings when they agree on
these, too. -/
theorem AlikeButSecrets.settings_eq_iff (h : l.AlikeButSecrets l') :
    l.settings = l'.settings ↔ l.secrets = l'.secrets := by
  obtain ⟨⟨host, port, scheme, tags, consumers, fail, c, lookup, timeout⟩, _, _⟩ := l
  obtain ⟨⟨host', port', scheme', tags', consumers', fail', c', lookup', timeout'⟩, _, _⟩ := l'
  have hrest := h.1
  simp only [BrokerSettings.mk.injEq] at hrest ⊢
  rw [CredentialSettings.option_eq_iff]
  simp only [hrest, true_and, and_true, secrets]

/-- Without credentials there are no secrets to differ in. -/
theorem AlikeButSecrets.credentials_eq_none (h : l.AlikeButSecrets l')
    (hnone : l.settings.credentials = none) : l'.settings.credentials = none := by
  have hcredentials := congrArg BrokerSettings.credentials h.1
  dsimp only at hcredentials
  rw [hnone, Option.map_none] at hcredentials
  exact Option.map_eq_none_iff.1 hcredentials.symm

/-- The loader with other secrets in its settings, if it has credentials at all. -/
def withSecrets (l : BrokerLoader) (password token : String) : BrokerLoader :=
  { l with settings := { l.settings with
      credentials := l.settings.credentials.map fun c =>
        { c with password := password, token := token } } }

theorem alikeButSecrets_withSecrets (l : BrokerLoader) (password token : String) :
    l.AlikeButSecrets (l.withSecrets password token) := by
  refine ⟨?_, rfl⟩
  simp only [withSecrets, Option.map_map]
  rfl

theorem secrets_withSecrets (l : BrokerLoader) (password token : String) :
    (l.withSecrets password token).secrets = l.secrets.map fun _ => (password, token) := by
  simp [withSecrets, secrets, Function.comp_def, CredentialSettings.secrets]

/-- **The secrets of a loader are shown.**  Loaders that agree on everything but their secrets are
shown alike only when they agree on these, too.  So the secrets of a loader stay hidden exactly when
no credentials are set. -/
theorem secrets_shown (l : BrokerLoader) :
    (∀ l' : BrokerLoader, l.AlikeButSecrets l' → (l.shown = l'.shown ↔ l.secrets = l'.secrets)) ∧
    ((∀ l' : BrokerLoader, l.AlikeButSecrets l' → l.shown = l'.shown) ↔
      l.settings.credentials = none) := by
  have hshown : ∀ l' : BrokerLoader, l.AlikeButSecrets l' →
      (l.shown = l'.shown ↔ l.secrets = l'.secrets) := fun l' h => by
    rw [shown_eq_iff, and_iff_left h.2, h.settings_eq_iff]
  refine ⟨hshown, fun hkept => ?_, fun hnone l' h => (hshown l' h).2 ?_⟩
  · cases hc : l.settings.credentials with
    | none => rfl
    | some c =>
      -- a longer password is another one
      have halike := l.alikeButSecrets_withSecrets (c.password ++ "x") c.token
      have hsecrets := (hshown _ halike).1 (hkept _ halike)
      rw [secrets_withSecrets, secrets, hc] at hsecrets
      have hpassword : c.password = c.password ++ "x" :=
        (Prod.mk.inj (Option.some.inj hsecrets)).1
      exact absurd (congrArg String.length hpassword) (by simp)
  · rw [secrets, secrets, hnone, h.credentials_eq_none hnone]

/-- Loaders with the same password are shown alike, whatever they have loaded and whatever their
lookups give. -/
theorem secrets_shown_of_same_password :
    let credentials : CredentialSettings :=
      { CredentialSettings.blank with username := "ci", password := "hunter2" }
    let settings : BrokerSettings :=
      { BrokerSettings.default with credentials := some credentials }
    let pact : Pact := ⟨"web", "orders", [], [], .null, "http://pb.local/1"⟩
    let l : BrokerLoader := ⟨settings, some fun _ => none, .empty⟩
    let l' : BrokerLoader := ⟨settings, some fun _ => some "8080", Registry.empty.record "web" pact⟩
    l.AlikeButSecrets l' ∧ l.secrets = some ("hunter2", "") ∧ l.shown = l'.shown := by
  intro credentials settings pact l l'
  have halike : l.AlikeButSecrets l' := ⟨rfl, rfl⟩
  exact ⟨halike, rfl, ((secrets_shown l).1 l' halike).2 rfl⟩

/-- **A password in the settings is shown**, and so loaders that differ in it are not shown alike. -/
theorem password_shown :
    let credentials (password : String) : CredentialSettings :=
      { CredentialSettings.blank with username := "ci", password := password }
    let settings (password : String) : BrokerSettings :=
      { BrokerSettings.default with
        host := "pb.local", port := "", scheme := "http",
        credentials := some (credentials password) }
    let l : BrokerLoader := .ofSettings (settings "hunter2")
    let l' : BrokerLoader := .ofSettings (settings "swordfish")
    l.AlikeButSecrets l' ∧ l.shown ≠ l'.shown ∧
      l.shown = "PactBrokerLoader \x7b config: BrokerLoaderConfig \x7b host: \"pb.local\", " ++
        "port: \"\", scheme: \"http\", tags: [], consumers: [], fail_if_no_pacts_found: true, " ++
        "authentication: Some(AuthConfig \x7b scheme: None, username: \"ci\", " ++
        "password: \"hunter2\", token: \"\" \x7d), value_resolver: None, timeout_secs: None \x7d, " ++
        "explicit_resolver: false, .. \x7d" := by
  intro credentials settings l l'
  refine ⟨⟨rfl, rfl⟩, ?_, by decide +kernel⟩
  rw [Ne, shown_eq_iff]
  decide

end BrokerLoader

end Pacts
