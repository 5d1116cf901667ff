import Pacts.Proofs.Broker.Selection
import Pacts.Proofs.Placeholder.Letters

/-!
# The case of the letters of a scheme

The name of a scheme is looked at up to three times before something is sent: whether it is `none`,
whether it is `legacy`, and whether it is `basic` or `bearer`.  The case of its letters should not
matter to any of them.  It does matter to one: `legacy` is only taken for `basic` when it is written
in small letters, and with a capital among them it is a scheme that nobody knows.

* `Credentials.sent` — what is sent for settings.
* `Credentials.header?_schemeName` — the one comparison that looks at the case of letters.
* `Credentials.sent_withScheme_iff` — how far the case of letters does not matter.
-/

set_option autoImplicit false

namespace Pacts

/-- The settings with another scheme. -/
def CredentialSettings.withScheme (s : CredentialSettings) (scheme : String) :
    CredentialSettings :=
  { s with scheme := some scheme }

namespace Credentials

/-- What is sent for settings, or why they are refused. -/
def sent (lookup : Lookup) (settings : Option CredentialSettings) :
    Except BrokerError (Option String) :=
  (ofSettings? lookup settings).map header?

variable {lookup : Lookup} {s : CredentialSettings} {scheme scheme' username password : String}

/-! ## Explicit schemes -/

theorem header?_explicit_congr (h : sameLetters scheme scheme' = true) :
    (explicit scheme username password).header? = (explicit scheme' username password).header? := by
  rw [header?, header?, sameLetters_congr h, sameLetters_congr h]

/-- Only `legacy` in small letters is another name for `basic`. -/
theorem header?_schemeName :
    (explicit (schemeName scheme) username password).header? =
      if scheme = legacyScheme then some (basicHeader username password)
      else (explicit scheme username password).header? := by
  rw [schemeName]
  split
  · rw [header?, sameLetters_refl, if_pos rfl]
  · rfl

/-- In itself it is the name of no scheme, in letters of any case. -/
theorem header?_explicit_of_legacy (h : sameLetters scheme legacyScheme = true) :
    (explicit scheme username password).header? = none := by
  rw [header?_explicit_congr h]
  rfl

/-- Of a scheme in letters of another case the same is sent, unless only one of the two is
`legacy` in small letters. -/
theorem header?_schemeName_eq_iff (h : sameLetters scheme scheme' = true) :
    (explicit (schemeName scheme') username password).header? =
        (explicit (schemeName scheme) username password).header? ↔
      (scheme' = legacyScheme ↔ scheme = legacyScheme) := by
  rw [header?_schemeName, header?_schemeName]
  by_cases hl : scheme = legacyScheme
  · by_cases hl' : scheme' = legacyScheme
    · simp [hl, hl']
    · have hnone : (explicit scheme' username password).header? = none := by
        refine header?_explicit_of_legacy ?_
        rw [← hl, sameLetters_comm]
        exact h
      simp [hl, hl', hnone]
  · by_cases hl' : scheme' = legacyScheme
    · have hnone : (explicit scheme username password).header? = none :=
        header?_explicit_of_legacy (hl' ▸ h)
      simp [hl, hl', hnone]
    · simp [hl, hl', header?_explicit_congr h]

/-! ## Settings -/

theorem ne_legacy_of_switchedOff (off : s.SwitchedOff) : s.writtenScheme ≠ legacyScheme := by
  intro he
  rw [CredentialSettings.SwitchedOff, he] at off
  revert off
  decide

theorem switchedOff_withScheme_iff (h : sameLetters s.writtenScheme scheme = true) :
    (s.withScheme scheme).SwitchedOff ↔ s.SwitchedOff := by
  have hnone : sameLetters scheme "none" = sameLetters s.writtenScheme "none" :=
    (sameLetters_congr h "none").symm
  exact iff_of_eq (congrArg (· = true) hnone)

theorem eq_empty_of_sameLetters (h : sameLetters "" scheme = true) : scheme = "" := by
  rw [sameLetters_iff, lowered, lowered, String.ofList_inj] at h
  exact String.toList_inj.1 (List.map_eq_nil_iff.1 h.symm)

theorem sent_of_switchedOff (off : s.SwitchedOff) : sent lookup (some s) = .ok none := by
  rw [sent, (Selected.switchedOff off).eq]
  rfl

/-- A scheme without placeholders is taken as it is written. -/
theorem sent_of_explicit (on : ¬ s.SwitchedOff) (plain : hasPlaceholder s.writtenScheme = false)
    (hne : s.writtenScheme ≠ "") :
    sent lookup (some s) = .ok (explicit (schemeName s.writtenScheme) (expand lookup s.username)
      (expand lookup s.password)).header? := by
  have hexpand : expand lookup s.writtenScheme = s.writtenScheme :=
    expand_of_no_placeholder plain lookup
  rw [sent, (Selected.explicit on (by rwa [hexpand])).eq, hexpand]
  rfl

/-- No scheme is as good as an empty one. -/
theorem sent_withScheme_empty (hempty : s.writtenScheme = "") :
    sent lookup (some (s.withScheme "")) = sent lookup (some s) := by
  obtain ⟨_ | scheme, username, password, token⟩ := s
  · rfl
  · obtain rfl : scheme = "" := hempty
    rfl

/-- **How far the case of the letters of a scheme does not matter.**  Without placeholders in it, the
scheme can be written in letters of another case, and the same is sent, unless it is `legacy` and
only one of the two is in small letters. -/
theorem sent_withScheme_iff (plain : hasPlaceholder s.writtenScheme = false)
    (h : sameLetters s.writtenScheme scheme = true) :
    sent lookup (some (s.withScheme scheme)) = sent lookup (some s) ↔
      (scheme = legacyScheme ↔ s.writtenScheme = legacyScheme) := by
  by_cases off : s.SwitchedOff
  · have off' := (switchedOff_withScheme_iff h).2 off
    rw [sent_of_switchedOff off, sent_of_switchedOff off']
    exact iff_of_true rfl (iff_of_false (ne_legacy_of_switchedOff off')
      (ne_legacy_of_switchedOff off))
  · have on' : ¬ (s.withScheme scheme).SwitchedOff := mt (switchedOff_withScheme_iff h).1 off
    have plain' : hasPlaceholder (s.withScheme scheme).writtenScheme = false :=
      hasPlaceholder_eq_false_of_sameLetters h plain
    by_cases hempty : s.writtenScheme = ""
    · obtain rfl : scheme = "" := eq_empty_of_sameLetters (hempty ▸ h)
      exact iff_of_true (sent_withScheme_empty hempty) (by rw [hempty])
    · have hempty' : (s.withScheme scheme).writtenScheme ≠ "" := by
        intro he
        rw [show scheme = "" from he, sameLetters_comm] at h
        exact hempty (eq_empty_of_sameLetters h)
      rw [sent_of_explicit off plain hempty, sent_of_explicit on' plain' hempty', Except.ok.injEq]
      exact header?_schemeName_eq_iff h

end Credentials

end Pacts
