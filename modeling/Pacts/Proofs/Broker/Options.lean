import Pacts.Broker.Credentials

/-!
# Credentials as options

Credentials are handed on as a list of texts, and made out of the list again by its length and its
first text.  The list does not say of which kind they were: a user with a password and an explicit
scheme `basic` give the same three texts.  Reading decides for the first, so it does not undo
writing.  It brings credentials into a normal form, in which no explicit scheme is `basic`.

* `Credentials.normal` — the normal form; `Credentials.ofOptions_options` — it is what handing the
  credentials on comes to.
* `Credentials.normal_ofOptions` — whatever a list holds, what is read from it is normal.
* `Credentials.ofOptions_eq_anonymous_iff` — the lists that stand for nothing.
* `Credentials.options_normalize` — all of this in terms of the lists.
-/

set_option autoImplicit false

namespace Pacts

namespace Credentials

variable {c : Credentials} {o : List String}

/-! ## Normal forms -/

/-- The credentials with a user and a password in the place of an explicit scheme `basic`. -/
def normal : Credentials → Credentials
  | .explicit scheme username password =>
    if sameLetters scheme basicScheme then .basic username password
    else .explicit scheme username password
  | c => c

theorem normal_explicit_of_basic {scheme : String} (h : sameLetters scheme basicScheme = true)
    (username password : String) :
    (explicit scheme username password).normal = .basic username password :=
  if_pos h

theorem normal_explicit_of_not_basic {scheme : String}
    (h : ¬ sameLetters scheme basicScheme = true) (username password : String) :
    (explicit scheme username password).normal = .explicit scheme username password :=
  if_neg h

/-- Credentials are normal unless they have an explicit scheme `basic`. -/
theorem normal_eq_self_iff :
    c.normal = c ↔
      ¬ ∃ scheme username password, c = .explicit scheme username password ∧
        sameLetters scheme basicScheme = true := by
  cases c with
  | anonymous | basic | bearer => simp [normal]
  | explicit scheme username password =>
    by_cases h : sameLetters scheme basicScheme = true
    · simp [normal_explicit_of_basic h, h]
    · simp [normal_explicit_of_not_basic h, h]

theorem normal_normal (c : Credentials) : c.normal.normal = c.normal := by
  cases c with
  | anonymous | basic | bearer => rfl
  | explicit scheme username password =>
    by_cases h : sameLetters scheme basicScheme = true
    · rw [normal_explicit_of_basic h]
      rfl
    · rw [normal_explicit_of_not_basic h, normal_explicit_of_not_basic h]

theorem normal_ne_anonymous (scheme username password : String) :
    (explicit scheme username password).normal ≠ .anonymous := by
  by_cases h : sameLetters scheme basicScheme = true
  · rw [normal_explicit_of_basic h]
    nofun
  · rw [normal_explicit_of_not_basic h]
    nofun

/-! ## Lists -/

theorem ofOptions_pair_of_bearer {scheme : String} (h : sameLetters scheme bearerScheme = true)
    (token : String) : ofOptions [scheme, token] = .bearer token := by
  rw [ofOptions, if_pos h]

theorem ofOptions_pair_of_not_bearer {scheme : String}
    (h : ¬ sameLetters scheme bearerScheme = true) (token : String) :
    ofOptions [scheme, token] = .anonymous := by
  rw [ofOptions, if_neg h]

theorem ofOptions_triple (scheme username password : String) :
    ofOptions [scheme, username, password] = (explicit scheme username password).normal := rfl

/-- **To hand credentials on is to bring them into their normal form.** -/
theorem ofOptions_options (c : Credentials) : ofOptions c.options = c.normal := by
  cases c with
  | anonymous => rfl
  | basic username password =>
    exact normal_explicit_of_basic (sameLetters_refl basicScheme) username password
  | bearer token => exact ofOptions_pair_of_bearer (sameLetters_refl bearerScheme) token
  | explicit scheme username password => exact ofOptions_triple scheme username password

/-- What is read from a list is normal. -/
theorem normal_ofOptions (o : List String) : (ofOptions o).normal = ofOptions o := by
  match o with
  | [] | [_] | _ :: _ :: _ :: _ :: _ => rfl
  | [scheme, token] =>
    by_cases h : sameLetters scheme bearerScheme = true
    · rw [ofOptions_pair_of_bearer h]
      rfl
    · rw [ofOptions_pair_of_not_bearer h]
      rfl
  | [scheme, username, password] => exact normal_normal (.explicit scheme username password)

/-- A list stands for nothing unless it has three texts or is `bearer` with a token. -/
theorem ofOptions_eq_anonymous_iff :
    ofOptions o = .anonymous ↔
      o.length ≠ 3 ∧
        ¬ ∃ scheme token, o = [scheme, token] ∧ sameLetters scheme bearerScheme = true := by
  match o with
  | [] | [_] => simp [ofOptions]
  | [scheme, token] =>
    by_cases h : sameLetters scheme bearerScheme = true
    · simp [ofOptions_pair_of_bearer h, h]
    · simp [ofOptions_pair_of_not_bearer h, h]
  | [scheme, username, password] =>
    rw [ofOptions_triple]
    simp [normal_ne_anonymous]
  | _ :: _ :: _ :: _ :: _ => simp [ofOptions]

/-- **Handing credentials on normalizes them.**  What is sent stays the same.  The credentials do so
too, unless they have an explicit scheme `basic`, in letters of any case; they come back as those of
a user with a password then.  What was read from a list does not change any more when it is handed
on, whatever the list holds.  A list that neither has three texts nor is `bearer`, in letters of any
case, with a token stands for nothing, and nothing is sent for it. -/
theorem options_normalize :
    (∀ c : Credentials, (ofOptions c.options).header? = c.header?) ∧
    (∀ c : Credentials, ofOptions c.options = c ↔
      ¬ ∃ scheme username password, c = .explicit scheme username password ∧
        sameLetters scheme basicScheme = true) ∧
    (∀ scheme username password, sameLetters scheme basicScheme = true →
      ofOptions (explicit scheme username password).options = .basic username password) ∧
    (∀ o, ofOptions (ofOptions o).options = ofOptions o) ∧
    (∀ o, ofOptions o = .anonymous ↔
      o.length ≠ 3 ∧
        ¬ ∃ scheme token, o = [scheme, token] ∧ sameLetters scheme bearerScheme = true) ∧
    ∀ o, ofOptions o = .anonymous → (ofOptions o).header? = none := by
  refine ⟨header?_ofOptions_options, ?_, ?_, ?_, fun o => ofOptions_eq_anonymous_iff, ?_⟩
  · intro c
    rw [ofOptions_options]
    exact normal_eq_self_iff
  · intro scheme username password h
    rw [ofOptions_options, normal_explicit_of_basic h]
  · intro o
    rw [ofOptions_options, normal_ofOptions]
  · intro o h
    rw [h]
    rfl

/-- Explicit credentials in capitals come back as those of a user, and a token alone as nothing. -/
theorem options_normalize_of_capitals :
    sameLetters "BaSiC" basicScheme = true ∧
      ofOptions (explicit "BaSiC" "" "p:w").options = .basic "" "p:w" ∧
      ofOptions ["digest", "t"] = .anonymous ∧
      (ofOptions ["digest", "t"]).header? = none := by
  have hscheme : sameLetters "BaSiC" basicScheme = true := by decide
  have hnone : ofOptions ["digest", "t"] = .anonymous := by decide
  obtain ⟨-, -, hbasic, -, -, hheader⟩ := options_normalize
  exact ⟨hscheme, hbasic "BaSiC" "" "p:w" hscheme, hnone, hheader _ hnone⟩

end Credentials

end Pacts
