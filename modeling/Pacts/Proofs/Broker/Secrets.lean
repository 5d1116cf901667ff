import Pacts.Broker.Client
import Pacts.Proofs.Text.Quoted

/-!
# What is shown of credentials

Credentials are shown for diagnostics, and what is sent as a secret is to be kept out of that.  The
password and the token have a field of their own, which is left out.  There is one more secret: an
explicit scheme `bearer` has no field for a token and sends the user in its place.  The user is
shown, though, so these credentials give away all that they send.

* `Credentials.AlikeButSecrets` — credentials that differ at most in what is sent as a secret.
* `Credentials.UserIsToken` — the user is sent as the token.
* `Credentials.shown_explicit_inj` and `Client.shown_inj` — how much of credentials is shown.
* `Credentials.shown_of_alike` — in which cases the secrets stay hidden.
* `Credentials.token_shown` — the case in which they do not.
-/

set_option autoImplicit false

namespace Pacts

namespace Credentials

variable {c d : Credentials} {scheme : String}

/-- Credentials of one kind that agree on everything but their secrets.  Secret is a password, a
token, and what is sent as one: the user of an explicit scheme `bearer`, in letters of any case. -/
inductive AlikeButSecrets : Credentials → Credentials → Prop
  | anonymous : AlikeButSecrets .anonymous .anonymous
  | basic (username password password' : String) :
      AlikeButSecrets (.basic username password) (.basic username password')
  | bearer (token token' : String) : AlikeButSecrets (.bearer token) (.bearer token')
  | explicit (scheme username password password' : String) :
      AlikeButSecrets (.explicit scheme username password) (.explicit scheme username password')
  | explicitBearer {scheme : String} (h : sameLetters scheme bearerScheme = true)
      (username username' password password' : String) :
      AlikeButSecrets (.explicit scheme username password) (.explicit scheme username' password')

/-- The user is sent as the token. -/
def UserIsToken (c : Credentials) : Prop :=
  ∃ scheme username password, c = .explicit scheme username password ∧
    sameLetters scheme bearerScheme = true

theorem userIsToken_explicit_iff {username password : String} :
    (explicit scheme username password).UserIsToken ↔ sameLetters scheme bearerScheme = true := by
  simp [UserIsToken]

/-- What is sent for an explicit scheme `bearer`. -/
theorem header?_explicit_of_bearer (h : sameLetters scheme bearerScheme = true)
    (username password : String) :
    (explicit scheme username password).header? = some (bearerHeader username) := by
  have hbasic : sameLetters scheme basicScheme = false := by
    rw [sameLetters_congr h]
    decide
  rw [header?, hbasic, h]
  rfl

/-! ## How much is shown -/

theorem shown_explicit (scheme username password : String) :
    (explicit scheme username password).shown =
      showRecord "Explicit"
        ([("scheme", quoted scheme)] ++ ("username", quoted username) :: [("password", redacted)])
        false := rfl

/-- Of explicit credentials with one scheme the user is shown, and only the user. -/
theorem shown_explicit_inj {username username' password password' : String} :
    (explicit scheme username password).shown = (explicit scheme username' password').shown ↔
      username = username' := by
  rw [shown_explicit, shown_explicit, showRecord_inj, quoted_inj]

end Credentials

/-- Of a client at a URL all is shown that is shown of its credentials. -/
theorem Client.shown_inj {base : Url} {c d : Credentials} :
    (Client.mk base c).shown = (Client.mk base d).shown ↔ c.shown = d.shown := by
  have hshown : ∀ e : Credentials, (Client.mk base e).shown =
      showRecord "BrokerClient" ([("base_url", quoted base.text)] ++ ("auth", e.shown) :: []) true :=
    fun _ => rfl
  rw [hshown, hshown, showRecord_inj]

namespace Credentials

variable {c d : Credentials}

/-- Credentials that keep their secrets in a field for secrets are shown without them. -/
theorem AlikeButSecrets.shown_eq (h : c.AlikeButSecrets d) (hc : ¬ c.UserIsToken) :
    c.shown = d.shown := by
  cases h with
  | anonymous | basic | bearer => rfl
  | explicit => exact shown_explicit_inj.2 rfl
  | explicitBearer h => exact absurd (userIsToken_explicit_iff.2 h) hc

/-- Credentials that send the user as the token show what they send. -/
theorem AlikeButSecrets.shown_eq_iff (h : c.AlikeButSecrets d) (hc : c.UserIsToken) :
    c.shown = d.shown ↔ c.header? = d.header? := by
  cases h with
  | anonymous | basic | bearer => obtain ⟨_, _, _, ⟨⟩, -⟩ := hc
  | explicit =>
    have hbearer := userIsToken_explicit_iff.1 hc
    simp only [shown_explicit_inj, header?_explicit_of_bearer hbearer]
  | explicitBearer hbearer =>
    rw [shown_explicit_inj, header?_explicit_of_bearer hbearer, header?_explicit_of_bearer hbearer,
      Option.some_inj, bearerHeader, bearerHeader, String.append_right_inj]

/-- **When secrets stay hidden.**  Credentials that agree on everything but their secrets are shown
alike, and so are clients with them at the same URL, unless the user is sent as the token.  In this
case they are shown alike only when the same is sent. -/
theorem shown_of_alike (h : c.AlikeButSecrets d) :
    (¬ c.UserIsToken → c.shown = d.shown ∧
      ∀ base : Url, (Client.mk base c).shown = (Client.mk base d).shown) ∧
    (c.UserIsToken → (c.shown = d.shown ↔ c.header? = d.header?) ∧
      ∀ base : Url, (Client.mk base c).shown = (Client.mk base d).shown ↔
        c.header? = d.header?) := by
  refine ⟨fun hc => ⟨h.shown_eq hc, fun base => ?_⟩, fun hc => ⟨h.shown_eq_iff hc, fun base => ?_⟩⟩
  · exact Client.shown_inj.2 (h.shown_eq hc)
  · exact Client.shown_inj.trans (h.shown_eq_iff hc)

/-- The password of a scheme that nobody knows stays hidden, and so does that of a scheme `bearer`
when the user is the same. -/
theorem shown_of_alike_of_passwords :
    let c := explicit "digest" "ci" "hunter2"
    let d := explicit "digest" "ci" "swordfish"
    let c' := explicit "BEARER" "abc123" "hunter2"
    let d' := explicit "BEARER" "abc123" "swordfish"
    c.AlikeButSecrets d ∧ ¬ c.UserIsToken ∧ c.shown = d.shown ∧
      c'.AlikeButSecrets d' ∧ c'.UserIsToken ∧ c'.shown = d'.shown := by
  intro c d c' d'
  have h : c.AlikeButSecrets d := .explicit ..
  have h' : c'.AlikeButSecrets d' := .explicit ..
  have hc : ¬ c.UserIsToken := by
    rw [userIsToken_explicit_iff]
    decide
  have hbearer : sameLetters "BEARER" bearerScheme = true := by decide
  have hc' : c'.UserIsToken := userIsToken_explicit_iff.2 hbearer
  have hheader : c'.header? = d'.header? := by
    rw [header?_explicit_of_bearer hbearer, header?_explicit_of_bearer hbearer]
  exact ⟨h, hc, ((shown_of_alike h).1 hc).1, h', hc', ((shown_of_alike h').2 hc').1.2 hheader⟩

/-- **A token in the place of the user is shown**, with the credentials and with a client. -/
theorem token_shown :
    let c := explicit "Bearer" "abc123" ""
    let d := explicit "Bearer" "xyz789" ""
    let base : Url :=
      { scheme := "http", username := "", password := none, host := some "broker", port := none,
        path := .segments [""], query := none, fragment := none }
    c.AlikeButSecrets d ∧ c.header? = some "Bearer abc123" ∧
      c.shown =
        "Explicit \x7b scheme: \"Bearer\", username: \"abc123\", password: \"<redacted>\" \x7d" ∧
      c.shown ≠ d.shown ∧ (Client.mk base c).shown ≠ (Client.mk base d).shown := by
  intro c d base
  have hbearer : sameLetters "Bearer" bearerScheme = true := by decide
  have hne : c.shown ≠ d.shown := by
    rw [Ne, shown_explicit_inj]
    decide
  refine ⟨.explicitBearer hbearer .., header?_explicit_of_bearer hbearer .., ?_, hne, ?_⟩
  · decide +kernel
  · rwa [Ne, Client.shown_inj]

end Credentials

end Pacts
