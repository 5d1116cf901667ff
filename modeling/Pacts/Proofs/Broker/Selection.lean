import Pacts.Broker.Credentials
import Pacts.Proofs.Results

/-!
# Which credentials settings stand for

Settings can name a scheme, a user and a token at once, and each of them may be left to a
placeholder.  What they stand for is decided in a fixed order, and once the settings are read as
they are written and once with their placeholders looked up.  Only a scheme `none` that is written
in the settings switches the credentials off.  A placeholder that is looked up as `none` is the name
of a scheme like any other; nothing is sent for it either, but only because nobody knows it.

* `CredentialSettings.SwitchedOff` — the settings say `none` themselves.
* `Credentials.Selected` — the table: what settings stand for, one constructor for each row.
* `Credentials.ofSettings?_eq_iff` — the table is what the settings come to.
* `Credentials.selection_table` — the table read by its outcomes, and what follows for a scheme that
  is looked up as `none`.
-/

set_option autoImplicit false

namespace Pacts

namespace CredentialSettings

/-- The scheme as it is written; one that is not there is empty. -/
def writtenScheme (s : CredentialSettings) : String := s.scheme.getD ""

/-- The settings say themselves that nothing is to be sent. -/
def SwitchedOff (s : CredentialSettings) : Prop := sameLetters s.writtenScheme "none" = true

end CredentialSettings

namespace Credentials

variable {lookup : Lookup} {s : CredentialSettings} {settings : Option CredentialSettings}

/-! ## The table -/

/-- The name under which a scheme goes. -/
def schemeName (scheme : String) : String := if scheme = legacyScheme then basicScheme else scheme

/-- What settings stand for. -/
inductive Selected (lookup : Lookup) :
    Option CredentialSettings → Except BrokerError Credentials → Prop
  | absent : Selected lookup none (.ok .anonymous)
  | switchedOff {s : CredentialSettings} (off : s.SwitchedOff) :
      Selected lookup (some s) (.ok .anonymous)
  | explicit {s : CredentialSettings} (on : ¬ s.SwitchedOff)
      (scheme : expand lookup s.writtenScheme ≠ "") :
      Selected lookup (some s) (.ok (.explicit (schemeName (expand lookup s.writtenScheme))
        (expand lookup s.username) (expand lookup s.password)))
  | basic {s : CredentialSettings} (on : ¬ s.SwitchedOff)
      (scheme : expand lookup s.writtenScheme = "") (username : expand lookup s.username ≠ "") :
      Selected lookup (some s) (.ok (.basic (expand lookup s.username) (expand lookup s.password)))
  | bearer {s : CredentialSettings} (on : ¬ s.SwitchedOff)
      (scheme : expand lookup s.writtenScheme = "") (username : expand lookup s.username = "")
      (token : expand lookup s.token ≠ "") :
      Selected lookup (some s) (.ok (.bearer (expand lookup s.token)))
  | nothing {s : CredentialSettings} (on : ¬ s.SwitchedOff)
      (scheme : expand lookup s.writtenScheme = "") (username : expand lookup s.username = "")
      (token : expand lookup s.token = "") :
      Selected lookup (some s) (.error .invalidAuthentication)

/-- Settings that are not switched off are looked through in order. -/
theorem ofSettings_of_on (on : ¬ s.SwitchedOff) :
    ofSettings lookup s =
      if expand lookup s.writtenScheme ≠ "" then
        .ok (.explicit (schemeName (expand lookup s.writtenScheme)) (expand lookup s.username)
          (expand lookup s.password))
      else if expand lookup s.username ≠ "" then
        .ok (.basic (expand lookup s.username) (expand lookup s.password))
      else if expand lookup s.token ≠ "" then .ok (.bearer (expand lookup s.token))
      else .error .invalidAuthentication :=
  if_neg on

/-- There is a row for all settings. -/
theorem selected_ofSettings (lookup : Lookup) (s : CredentialSettings) :
    Selected lookup (some s) (ofSettings lookup s) := by
  by_cases on : s.SwitchedOff
  · have h : ofSettings lookup s = .ok .anonymous := if_pos on
    rw [h]
    exact .switchedOff on
  · rw [ofSettings_of_on on]
    split
    · rename_i hscheme
      exact .explicit on hscheme
    · rename_i hscheme
      rw [ne_eq, Decidable.not_not] at hscheme
      split
      · rename_i husername
        exact .basic on hscheme husername
      · rename_i husername
        rw [ne_eq, Decidable.not_not] at husername
        split
        · rename_i htoken
          exact .bearer on hscheme husername htoken
        · rename_i htoken
          rw [ne_eq, Decidable.not_not] at htoken
          exact .nothing on hscheme husername htoken

/-- There is only one row for settings. -/
theorem Selected.eq {r : Except BrokerError Credentials} (h : Selected lookup settings r) :
    ofSettings? lookup settings = r := by
  cases h with
  | absent => rfl
  | switchedOff off => exact if_pos off
  | explicit on scheme => rw [ofSettings?, ofSettings_of_on on, if_pos scheme]
  | basic on scheme username =>
    rw [ofSettings?, ofSettings_of_on on, if_neg (not_not_intro scheme), if_pos username]
  | bearer on scheme username token =>
    rw [ofSettings?, ofSettings_of_on on, if_neg (not_not_intro scheme),
      if_neg (not_not_intro username), if_pos token]
  | nothing on scheme username token =>
    rw [ofSettings?, ofSettings_of_on on, if_neg (not_not_intro scheme),
      if_neg (not_not_intro username), if_neg (not_not_intro token)]

/-- **The table is what settings come to.** -/
theorem ofSettings?_eq_iff {r : Except BrokerError Credentials} :
    ofSettings? lookup settings = r ↔ Selected lookup settings r := by
  refine ⟨?_, Selected.eq⟩
  rintro rfl
  cases settings with
  | none => exact .absent
  | some s => exact selected_ofSettings lookup s

/-! ## Schemes that nobody knows -/

/-- A scheme that goes by `none` in letters of any case is not known. -/
theorem header?_explicit_of_none {scheme : String} (h : sameLetters scheme "none" = true)
    (username password : String) :
    (explicit (schemeName scheme) username password).header? = none := by
  have hlegacy : scheme ≠ legacyScheme := by
    rintro rfl
    revert h
    decide
  have hbasic : sameLetters scheme basicScheme = false := by
    rw [sameLetters_congr h]
    decide
  have hbearer : sameLetters scheme bearerScheme = false := by
    rw [sameLetters_congr h]
    decide
  rw [schemeName, if_neg hlegacy, header?, hbasic, hbearer]
  rfl

/-! ## Outcomes -/

/-- **Which credentials settings stand for.**  Nobody is named exactly when there are no settings,
or when their scheme is `none` as it is written, in letters of any case.  Otherwise a scheme that is
looked up as some text is taken with the user and the password, whatever these are, and under the
name `basic` if it is `legacy`.  Without one, a user that is looked up as some text is taken with
the password; without this, a token that is looked up as some text; and when there is none of them,
the settings are refused.  So a scheme that is only looked up as `none` names somebody, but nothing
is sent. -/
theorem selection_table (lookup : Lookup) (settings : Option CredentialSettings) :
    let r := ofSettings? lookup settings
    (r = .ok .anonymous ↔ settings = none ∨ ∃ s, settings = some s ∧ s.SwitchedOff) ∧
    (∀ scheme username password, r = .ok (.explicit scheme username password) ↔
      ∃ s, settings = some s ∧ ¬ s.SwitchedOff ∧ expand lookup s.writtenScheme ≠ "" ∧
        scheme = schemeName (expand lookup s.writtenScheme) ∧
        username = expand lookup s.username ∧ password = expand lookup s.password) ∧
    (∀ username password, r = .ok (.basic username password) ↔
      ∃ s, settings = some s ∧ ¬ s.SwitchedOff ∧ expand lookup s.writtenScheme = "" ∧
        username ≠ "" ∧
        username = expand lookup s.username ∧ password = expand lookup s.password) ∧
    (∀ token, r = .ok (.bearer token) ↔
      ∃ s, settings = some s ∧ ¬ s.SwitchedOff ∧ expand lookup s.writtenScheme = "" ∧
        expand lookup s.username = "" ∧ token ≠ "" ∧ token = expand lookup s.token) ∧
    (∀ e, r = .error e ↔
      e = .invalidAuthentication ∧ ∃ s, settings = some s ∧ ¬ s.SwitchedOff ∧
        expand lookup s.writtenScheme = "" ∧ expand lookup s.username = "" ∧
        expand lookup s.token = "") ∧
    ∀ s, settings = some s → ¬ s.SwitchedOff →
      sameLetters (expand lookup s.writtenScheme) "none" = true →
        ∃ c, r = .ok c ∧ c ≠ .anonymous ∧ c.header? = none := by
  intro r
  simp only [r, ofSettings?_eq_iff]
  refine ⟨⟨?_, ?_⟩, fun scheme username password => ⟨?_, ?_⟩, fun username password => ⟨?_, ?_⟩,
    fun token => ⟨?_, ?_⟩, fun e => ⟨?_, ?_⟩, ?_⟩
  · intro h
    cases h with
    | absent => exact .inl rfl
    | switchedOff off => exact .inr ⟨_, rfl, off⟩
  · rintro (rfl | ⟨s, rfl, off⟩)
    · exact .absent
    · exact .switchedOff off
  · intro h
    cases h with
    | explicit on hscheme => exact ⟨_, rfl, on, hscheme, rfl, rfl, rfl⟩
  · rintro ⟨s, rfl, on, hscheme, rfl, rfl, rfl⟩
    exact .explicit on hscheme
  · intro h
    cases h with
    | basic on hscheme husername => exact ⟨_, rfl, on, hscheme, husername, rfl, rfl⟩
  · rintro ⟨s, rfl, on, hscheme, husername, rfl, rfl⟩
    exact .basic on hscheme husername
  · intro h
    cases h with
    | bearer on hscheme husername htoken =>
      exact ⟨_, rfl, on, hscheme, husername, htoken, rfl⟩
  · rintro ⟨s, rfl, on, hscheme, husername, htoken, rfl⟩
    exact .bearer on hscheme husername htoken
  · intro h
    cases h with
    | nothing on hscheme husername htoken =>
      exact ⟨rfl, _, rfl, on, hscheme, husername, htoken⟩
  · rintro ⟨rfl, s, rfl, on, hscheme, husername, htoken⟩
    exact .nothing on hscheme husername htoken
  · rintro s rfl on hnone
    have hscheme : expand lookup s.writtenScheme ≠ "" := by
      intro hempty
      rw [hempty] at hnone
      revert hnone
      decide
    exact ⟨_, .explicit on hscheme, nofun, header?_explicit_of_none hnone _ _⟩

/-- A scheme that a placeholder stands for as `NONE` hides the user and the token, and nothing is
sent. -/
theorem selection_table_of_lookup :
    let s : CredentialSettings := ⟨some "${mode}", "ci", "${password:}", "token"⟩
    let lookup : Lookup := (Values.ofList [("mode", "NONE")]).lookup
    ¬ s.SwitchedOff ∧ expand lookup s.writtenScheme = "NONE" ∧
      ofSettings? lookup (some s) = .ok (.explicit "NONE" "ci" "") ∧
      ∃ c, ofSettings? lookup (some s) = .ok c ∧ c ≠ .anonymous ∧ c.header? = none := by
  intro s lookup
  have on : ¬ s.SwitchedOff := by
    rw [CredentialSettings.SwitchedOff]
    decide
  have hscheme : expand lookup s.writtenScheme = "NONE" := by decide
  have hnone : sameLetters (expand lookup s.writtenScheme) "none" = true := by
    rw [hscheme]
    decide
  have hname : "NONE" = schemeName (expand lookup s.writtenScheme) := by
    rw [hscheme]
    decide
  have hsome : expand lookup s.writtenScheme ≠ "" := by
    rw [hscheme]
    decide
  obtain ⟨-, hexplicit, -, -, -, hsilent⟩ := selection_table lookup (some s)
  refine ⟨on, hscheme, (hexplicit _ _ _).2 ?_, hsilent s rfl on hnone⟩
  exact ⟨s, rfl, on, hsome, hname, by decide, by decide⟩

end Credentials

end Pacts
