import Mathlib.Data.List.Basic
import Pacts.Broker.Endpoint
import Pacts.Proofs.Url.Hosts

/-!
# Endpoints and their ports

The settings of a scheme, a host and a port are made sense of in two steps.  The first looks up the
placeholders and insists on a host and on digits; how large the number is that the digits stand for
does not matter to it.  The second makes a URL.  A URL may have a port of its own, because it can
stand in the setting of the host, and a port that the scheme means anyway is not spelled out.  What
counts in the end is the port that a connection goes to.

* `Endpoint.ofSettings_eq_error_iff` and `Endpoint.ofSettings_eq_ok_iff` — the first step.
* `Endpoint.arises_url` — the second step does not make up URLs.
* `Url.digitsValue?_ten` — the digits are read as the number that they stand for.
* `Endpoint.url_of_port` — the URL of an endpoint with a port.
* `Endpoint.outcome_of_settings` — both steps in one statement.
-/

set_option autoImplicit false

namespace Pacts

/-! ## Decimal digits -/

namespace Url

/-- The digits of the decimal system are among those of the hexadecimal one, with their values. -/
theorem hexDigitValue?_of_isDigit {c : Char} (h : c.isDigit = true) :
    c.toNat < 128 ∧ c.toNat - '0'.toNat < 10 ∧
      Text.hexDigitValue? (UInt8.ofNat c.toNat) = some (c.toNat - '0'.toNat) := by
  have hrange : 48 ≤ c.toNat ∧ c.toNat ≤ 57 := by
    simpa [Char.isDigit, UInt32.le_iff_toNat_le] using h
  have hbyte : (UInt8.ofNat c.toNat).toNat = c.toNat := by
    rw [UInt8.toNat_ofNat']
    omega
  have hzero : '0'.toNat = 48 := rfl
  refine ⟨by omega, by omega, ?_⟩
  simp only [Text.hexDigitValue?, hbyte, hrange, and_self, if_true, hzero]

/-- Decimal digits are read as the number that they stand for, however many they are. -/
theorem digitsValue?_ten {cs : List Char} (h : ∀ c ∈ cs, c.isDigit = true) :
    digitsValue? 10 cs = some (Nat.ofDigitChars 10 cs 0) := by
  rw [digitsValue?]
  -- the induction goes through the digits, so it is about any number to start from
  generalize 0 = n
  induction cs generalizing n with
  | nil => rfl
  | cons c cs ih =>
    obtain ⟨hascii, hlt, hvalue⟩ := hexDigitValue?_of_isDigit (h c List.mem_cons_self)
    rw [List.foldlM_cons, hvalue, Nat.ofDigitChars_cons, Nat.mul_comm]
    simp only [Option.bind_eq_bind, Option.bind_some, if_pos (And.intro hascii hlt)]
    exact ih (fun d hd => h d (List.mem_cons_of_mem c hd)) _

end Url

namespace Endpoint

/-! ## The endpoint of settings -/

section Settings

variable {lookup : Lookup} {scheme host port : String}

theorem ofSettings_eq_error_iff {e : BrokerError} :
    ofSettings lookup scheme host port = .error e ↔
      (trimmed (expand lookup host) = "" ∧ e = .invalidHost host) ∨
      (trimmed (expand lookup host) ≠ "" ∧
        ¬ (trimmed (expand lookup port)).toList.all Char.isDigit ∧ e = .invalidPort port) := by
  rw [ofSettings]
  generalize trimmed (expand lookup host) = h
  generalize trimmed (expand lookup port) = p
  by_cases hh : h = ""
  · simp [hh, @eq_comm _ e]
  · by_cases hp : p.toList.all Char.isDigit = true
    · simp [hh, hp]
    · have hne : p ≠ "" := by
        rintro rfl
        exact hp rfl
      simp [hh, hp, hne, @eq_comm _ e]

theorem ofSettings_eq_ok_iff {e : Endpoint} :
    ofSettings lookup scheme host port = .ok e ↔
      trimmed (expand lookup host) ≠ "" ∧
        (∀ c ∈ (trimmed (expand lookup port)).toList, c.isDigit = true) ∧
        e = ⟨trimmed (expand lookup scheme), trimmed (expand lookup host),
          if trimmed (expand lookup port) = "" then none
          else some (trimmed (expand lookup port))⟩ := by
  rw [ofSettings, ← List.all_eq_true]
  generalize trimmed (expand lookup host) = h
  generalize trimmed (expand lookup port) = p
  by_cases hh : h = ""
  · simp [hh]
  by_cases hp : p.toList.all Char.isDigit = true
  · rw [if_neg hh, if_neg fun hbad => by simp only [hp] at hbad; exact Bool.noConfusion hbad.2]
    exact ⟨fun he => ⟨hh, hp, (Except.ok.inj he).symm⟩, fun ⟨_, _, he⟩ => congrArg _ he.symm⟩
  · have hne : p ≠ "" := by
      rintro rfl
      exact hp rfl
    rw [if_neg hh, if_pos ⟨hne, by simpa only [Bool.not_eq_true'] using eq_false_of_ne_true hp⟩]
    exact ⟨nofun, fun ⟨_, hall, _⟩ => absurd hall hp⟩

/-- The parts of an endpoint are what is left of the settings; the port is missing, or in digits. -/
theorem parts_of_ofSettings {e : Endpoint} (h : ofSettings lookup scheme host port = .ok e) :
    e.scheme = trimmed (expand lookup scheme) ∧ e.host = trimmed (expand lookup host) ∧
      (trimmed (expand lookup port) = "" → e.port = none) ∧
      (trimmed (expand lookup port) ≠ "" → e.port = some (trimmed (expand lookup port))) ∧
      ∀ digits, e.port = some digits → ∀ c ∈ digits.toList, c.isDigit = true := by
  obtain ⟨-, hdigits, rfl⟩ := ofSettings_eq_ok_iff.1 h
  dsimp only
  generalize trimmed (expand lookup port) = p at hdigits ⊢
  refine ⟨rfl, rfl, fun hp => if_pos hp, fun hp => if_neg hp, ?_⟩
  intro digits hport
  split at hport
  · cases hport
  · cases hport
    exact hdigits

end Settings

/-! ## The URL of an endpoint -/

/-- The URL of a broker arises, whatever its scheme and its host are set to. -/
theorem arises_url {e : Endpoint} {u : Url} (h : e.url = .ok u) : u.Arises := by
  rw [url] at h
  split at h
  · cases h
  · rename_i hparse
    split at h
    · cases h
      exact .parsed hparse
    · split at h
      · cases h
      · split at h
        · rename_i hport
          cases h
          exact .ported (.parsed hparse) hport
        · cases h

variable {e : Endpoint} {u : Url}

theorem url_of_no_port (h : Url.parse e.base = .ok u) (hport : e.port = none) :
    e.url = .ok u := by
  rw [url, h, hport]

/-- The port takes the place of the one that the URL has, if a port can be as large. -/
theorem url_of_port (h : Url.parse e.base = .ok u) (hweb : u.scheme = "http" ∨ u.scheme = "https")
    {digits : String} (hport : e.port = some digits) (hd : ∀ c ∈ digits.toList, c.isDigit = true)
    {n : Nat} (hn : Nat.ofDigitChars 10 digits.toList 0 = n) :
    e.url = if 65535 < n then .error (.invalidUrl e.text .port)
      else .ok { u with
        port := if Url.defaultPort? u.scheme = some n then none else some n } := by
  have hnumber : portNumber digits = n := by
    rw [portNumber, Url.digitsValue?_ten hd, hn]
    rfl
  rw [url, h, hport]
  dsimp only
  rw [hnumber, (Url.Arises.parsed h).withPort?_eq_some hweb]

/-- **What settings of a place come to.**  The host is refused when nothing is left of it, and then
the port when it holds anything but digits; each refusal names the setting as it was written.
Otherwise there is an endpoint, whose port is missing or a text of digits, as long as it may be.

Let the scheme and the host of the endpoint be read as a URL of the web.  Without a port this is the
URL of the endpoint.  With a port the URL is refused exactly when the port stands for a number above
65535, and otherwise it is this URL, whether or not that had a port of its own, with nothing but the
port changed: a connection goes to the number that the port stands for. -/
theorem outcome_of_settings (lookup : Lookup) (scheme host port : String) :
    let h := trimmed (expand lookup host)
    let p := trimmed (expand lookup port)
    let endpoint := ofSettings lookup scheme host port
    (endpoint = .error (.invalidHost host) ↔ h = "") ∧
    (endpoint = .error (.invalidPort port) ↔ h ≠ "" ∧ ∃ c ∈ p.toList, c.isDigit = false) ∧
    ((∃ e, endpoint = .ok e) ↔ h ≠ "" ∧ ∀ c ∈ p.toList, c.isDigit = true) ∧
    ∀ e, endpoint = .ok e →
      e.scheme = trimmed (expand lookup scheme) ∧ e.host = h ∧
      (p = "" → e.port = none) ∧ (p ≠ "" → e.port = some p) ∧
      ∀ u, Url.parse (e.scheme ++ "://" ++ e.host) = .ok u →
        u.scheme = "http" ∨ u.scheme = "https" →
        (e.port = none → e.url = .ok u) ∧
        ∀ digits, e.port = some digits →
          let n := Nat.ofDigitChars 10 digits.toList 0
          ((∃ text defect, e.url = .error (.invalidUrl text defect)) ↔ 65535 < n) ∧
          (65535 < n →
            e.url = .error (.invalidUrl (e.scheme ++ "://" ++ e.host ++ ":" ++ digits) .port)) ∧
          (n ≤ 65535 → ∃ u', e.url = .ok u' ∧ u' = { u with port := u'.port } ∧
            u'.effectivePort? = some n) := by
  intro h p endpoint
  refine ⟨?_, ?_, ?_, ?_⟩
  · exact ofSettings_eq_error_iff.trans (by simp [h])
  · exact ofSettings_eq_error_iff.trans (by simp [h, p])
  · simp only [endpoint, ofSettings_eq_ok_iff, exists_and_left, exists_eq, and_true, h, p]
  · intro e he
    obtain ⟨hscheme, hhost, hnone, hsome, hdigits⟩ := parts_of_ofSettings he
    refine ⟨hscheme, hhost, hnone, hsome, ?_⟩
    have hbase : e.scheme ++ "://" ++ e.host = e.base := rfl
    rw [hbase]
    intro u hparse hweb
    refine ⟨url_of_no_port hparse, ?_⟩
    intro digits hport n
    have hurl := url_of_port hparse hweb hport (hdigits digits hport) rfl
    by_cases hn : 65535 < n
    · rw [if_pos hn, text, hport] at hurl
      exact ⟨⟨fun _ => hn, fun _ => ⟨_, _, hurl⟩⟩, fun _ => hurl, fun hle => absurd hn (Nat.not_lt.2 hle)⟩
    · rw [if_neg hn] at hurl
      refine ⟨⟨?_, fun hlt => absurd hlt hn⟩, fun hlt => absurd hlt hn, fun _ => ?_⟩
      · rintro ⟨text, defect, herror⟩
        rw [hurl] at herror
        cases herror
      · exact ⟨_, hurl, rfl, Url.effectivePort?_of_port rfl⟩

/-- Leading zeros do not count, the port in the setting of the host is overridden, and the first
number that is too large is refused. -/
theorem outcome_of_settings_of_ports :
    let lookup : Lookup := fun key => if key = "port" then some " 000443 " else none
    let e : Endpoint := ⟨"https", "pb.local:8080", some "000443"⟩
    let large : Endpoint := ⟨"https", "pb.local:8080", some "65536"⟩
    let u : Url :=
      { scheme := "https", username := "", password := none, host := some "pb.local",
        port := some 8080, path := .segments [""], query := none, fragment := none }
    ofSettings lookup "https" " pb.local:8080" "${port}" = .ok e ∧
      ofSettings lookup "https" " pb.local:8080" "65536" = .ok large ∧
      Url.parse "https://pb.local:8080" = .ok u ∧
      (∃ u', e.url = .ok u' ∧ u' = { u with port := u'.port } ∧ u'.effectivePort? = some 443) ∧
      large.url = .error (.invalidUrl "https://pb.local:8080:65536" .port) := by
  intro lookup e large u
  have he : ofSettings lookup "https" " pb.local:8080" "${port}" = .ok e := by decide +kernel
  have hlarge : ofSettings lookup "https" " pb.local:8080" "65536" = .ok large := by decide +kernel
  have hparse : Url.parse "https://pb.local:8080" = .ok u := by decide +kernel
  obtain ⟨-, -, -, hurl⟩ := outcome_of_settings lookup "https" " pb.local:8080" "${port}"
  obtain ⟨-, -, -, hlargeUrl⟩ := outcome_of_settings lookup "https" " pb.local:8080" "65536"
  obtain ⟨-, -, -, -, hplace⟩ := hurl e he
  obtain ⟨-, -, -, -, hlargePlace⟩ := hlargeUrl large hlarge
  have hsmall : Nat.ofDigitChars 10 "000443".toList 0 ≤ 65535 := by decide
  have htoo : 65535 < Nat.ofDigitChars 10 "65536".toList 0 := by decide
  exact ⟨he, hlarge, hparse, ((hplace u hparse (.inr rfl)).2 _ rfl).2.2 hsmall,
    ((hlargePlace u hparse (.inr rfl)).2 _ rfl).2.1 htoo⟩

end Endpoint

end Pacts
